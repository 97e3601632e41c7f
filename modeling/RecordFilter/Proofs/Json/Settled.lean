import RecordFilter.Json.Basic

/-!
# `RecordFilter.Proofs.Json.Settled`: settled JSON values

Settling keeps the last member of each key. A settled value has each key once and no unreadable
part, so settling it again changes nothing: `settle?_of_settled`. The proof follows the value; for
the members of an object it needs that `lastMembers` keeps the set of keys.

`IsSettled` says that a value is of this kind. Its parts then are, and the keys of an object differ.
-/

set_option autoImplicit false

namespace RecordFilter.Json

/-! ### The last member of each key -/

/-- Every key stays. -/
theorem any_lastMembers (ms : List (String × Json)) (key : String) :
    (lastMembers ms).any (fun m => m.1 == key) = ms.any fun m => m.1 == key := by
  induction ms with
  | nil => rfl
  | cons m rest ih =>
    obtain ⟨k, j⟩ := m
    rw [lastMembers]
    by_cases hlater : rest.any (fun m => m.1 == k) = true
    · rw [if_pos hlater, ih, List.any_cons]
      by_cases hk : k = key
      · rw [← hk, hlater]
        simp
      · simp [hk]
    · rw [if_neg hlater, List.any_cons, List.any_cons, ih]

/-- Where each key stands once, every member is the last one of its key. -/
theorem lastMembers_lastMembers (ms : List (String × Json)) :
    lastMembers (lastMembers ms) = lastMembers ms := by
  induction ms with
  | nil => rfl
  | cons m rest ih =>
    obtain ⟨k, j⟩ := m
    rw [lastMembers]
    by_cases hlater : rest.any (fun m => m.1 == k) = true
    · rw [if_pos hlater, ih]
    · rw [if_neg hlater, lastMembers, any_lastMembers, if_neg hlater, ih]

/-- Some of settled members are settled. -/
theorem settleMembers?_lastMembers {ms : List (String × Json)} (h : settleMembers? ms = some ms) :
    settleMembers? (lastMembers ms) = some (lastMembers ms) := by
  induction ms with
  | nil => rfl
  | cons m rest ih =>
    obtain ⟨k, j⟩ := m
    have hsettled : settle? j = some j ∧ settleMembers? rest = some rest := by
      simpa [settleMembers?, Option.bind_eq_some_iff] using h
    rw [lastMembers]
    split
    · exact ih hsettled.2
    · simp [settleMembers?, hsettled.1, ih hsettled.2]

/-! ### Settled values -/

mutual

/-- Settling a settled value changes nothing. -/
theorem settle?_of_settled : ∀ {j k : Json}, settle? j = some k → settle? k = some k
  | .null, k, h | .bool b, k, h | .number n, k, h | .str s, k, h => by
    cases h
    rfl
  | .unreadable, k, h => by
    cases h
  | .array items, k, h => by
    rw [settle?, Option.map_eq_some_iff] at h
    obtain ⟨ks, hks, rfl⟩ := h
    rw [settle?, settleItems?_of_settled hks, Option.map_some]
  | .object members, k, h => by
    rw [settle?, Option.map_eq_some_iff] at h
    obtain ⟨ms, hms, rfl⟩ := h
    have hlast := settleMembers?_lastMembers (settleMembers?_of_settled hms)
    rw [settle?, hlast, Option.map_some, lastMembers_lastMembers]

/-- Settling settled items changes nothing. -/
theorem settleItems?_of_settled : ∀ {items ks : List Json},
    settleItems? items = some ks → settleItems? ks = some ks
  | [], ks, h => by
    cases h
    rfl
  | j :: rest, ks, h => by
    simp only [settleItems?, Option.bind_eq_bind, Option.bind_eq_some_iff, Option.pure_def,
      Option.some.injEq] at h
    obtain ⟨k, hk, others, hothers, rfl⟩ := h
    simp [settleItems?, settle?_of_settled hk, settleItems?_of_settled hothers]

/-- Settling settled members changes nothing. -/
theorem settleMembers?_of_settled : ∀ {members ms : List (String × Json)},
    settleMembers? members = some ms → settleMembers? ms = some ms
  | [], ms, h => by
    cases h
    rfl
  | (key, j) :: rest, ms, h => by
    simp only [settleMembers?, Option.bind_eq_bind, Option.bind_eq_some_iff, Option.pure_def,
      Option.some.injEq] at h
    obtain ⟨k, hk, others, hothers, rfl⟩ := h
    simp [settleMembers?, settle?_of_settled hk, settleMembers?_of_settled hothers]

end

/-- Settling members keeps their keys. -/
theorem any_settleMembers? {members ms : List (String × Json)}
    (h : settleMembers? members = some ms) (key : String) :
    ms.any (fun m => m.1 == key) = members.any fun m => m.1 == key := by
  induction members generalizing ms with
  | nil =>
    cases h
    rfl
  | cons m rest ih =>
    obtain ⟨k, j⟩ := m
    simp only [settleMembers?, Option.bind_eq_bind, Option.bind_eq_some_iff, Option.pure_def,
      Option.some.injEq] at h
    obtain ⟨value, -, others, hothers, rfl⟩ := h
    simp [ih hothers]

/-- Settling an object keeps its keys. -/
theorem any_of_settle?_object {members ms : List (String × Json)}
    (h : settle? (.object members) = some (.object ms)) (key : String) :
    ms.any (fun m => m.1 == key) = members.any fun m => m.1 == key := by
  rw [settle?, Option.map_eq_some_iff] at h
  obtain ⟨all, hall, hlast⟩ := h
  cases hlast
  rw [any_lastMembers, any_settleMembers? hall]

/-! ### Parts of settled values -/

/-- The value is the result of settling: no part is unreadable, and the keys of objects differ. -/
def IsSettled (j : Json) : Prop :=
  j.settle? = some j

/-- There is nothing to settle in null. -/
theorem isSettled_null : IsSettled .null :=
  rfl

/-- The items of a settled array are settled. -/
theorem IsSettled.of_mem_array {items : List Json} (h : IsSettled (.array items)) :
    ∀ j ∈ items, j.IsSettled := by
  have hitems : settleItems? items = some items := by
    simpa [IsSettled, settle?] using h
  clear h
  induction items with
  | nil => simp
  | cons j rest ih =>
    have hparts : settle? j = some j ∧ settleItems? rest = some rest := by
      simpa [settleItems?, Option.bind_eq_some_iff] using hitems
    rw [List.forall_mem_cons]
    exact ⟨hparts.1, ih hparts.2⟩

/-- Settling an object settles its members, and drops none. -/
theorem IsSettled.members {members : List (String × Json)} (h : IsSettled (.object members)) :
    settleMembers? members = some members ∧ lastMembers members = members := by
  obtain ⟨ms, hms, hlast⟩ : ∃ ms, settleMembers? members = some ms ∧ lastMembers ms = members := by
    simpa [IsSettled, settle?] using h
  have hsettled := settleMembers?_lastMembers (settleMembers?_of_settled hms)
  rw [hlast] at hsettled
  refine ⟨hsettled, ?_⟩
  rw [← hlast, lastMembers_lastMembers]

/-- The members of a settled object are settled. -/
theorem IsSettled.of_mem_object {members : List (String × Json)}
    (h : IsSettled (.object members)) : ∀ m ∈ members, m.2.IsSettled := by
  have hmembers := h.members.1
  clear h
  induction members with
  | nil => simp
  | cons m rest ih =>
    obtain ⟨key, j⟩ := m
    have hparts : settle? j = some j ∧ settleMembers? rest = some rest := by
      simpa [settleMembers?, Option.bind_eq_some_iff] using hmembers
    rw [List.forall_mem_cons]
    exact ⟨hparts.1, ih hparts.2⟩

/-- Dropping members that come again leaves no more than there were. -/
theorem length_lastMembers_le (ms : List (String × Json)) :
    (lastMembers ms).length ≤ ms.length := by
  induction ms with
  | nil => simp [lastMembers]
  | cons m rest ih =>
    rw [lastMembers]
    split
    · simp only [List.length_cons]
      omega
    · simpa using ih

/-- The keys of a settled object differ. -/
theorem IsSettled.nodup_keys {members : List (String × Json)} (h : IsSettled (.object members)) :
    (members.map Prod.fst).Nodup := by
  have hlast := h.members.2
  clear h
  induction members with
  | nil => simp
  | cons m rest ih =>
    obtain ⟨key, j⟩ := m
    rw [lastMembers] at hlast
    split at hlast
    · -- A member that is dropped is missing in the end.
      have hlength := length_lastMembers_le rest
      rw [hlast, List.length_cons] at hlength
      omega
    · rename_i hlater
      rw [List.map_cons, List.nodup_cons]
      refine ⟨?_, ih (List.cons.inj hlast).2⟩
      intro hmem
      obtain ⟨later, hlaterMem, hkey⟩ := List.mem_map.mp hmem
      exact hlater (List.any_eq_true.mpr ⟨later, hlaterMem, by simpa using hkey⟩)

/-- An object is settled where its members are and its keys differ. -/
theorem isSettled_object {members : List (String × Json)} (hmembers : ∀ m ∈ members, m.2.IsSettled)
    (hkeys : (members.map Prod.fst).Nodup) : IsSettled (.object members) := by
  have hparts : settleMembers? members = some members ∧ lastMembers members = members := by
    induction members with
    | nil => exact ⟨rfl, rfl⟩
    | cons m rest ih =>
      obtain ⟨key, j⟩ := m
      rw [List.forall_mem_cons] at hmembers
      rw [List.map_cons, List.nodup_cons] at hkeys
      obtain ⟨hrest, hlast⟩ := ih hmembers.2 hkeys.2
      have hj : settle? j = some j := hmembers.1
      have hlater : ¬rest.any (fun m => m.1 == key) = true := by
        intro hany
        obtain ⟨m, hm, hkey⟩ := List.any_eq_true.mp hany
        exact hkeys.1 (List.mem_map.mpr ⟨m, hm, by simpa using hkey⟩)
      simp [settleMembers?, hj, hrest, lastMembers, hlater, hlast]
  rw [IsSettled, settle?, hparts.1, Option.map_some, hparts.2]

/-- Some members of a settled object are settled. -/
theorem IsSettled.filter {members : List (String × Json)} (h : IsSettled (.object members))
    (p : String × Json → Bool) : IsSettled (.object (members.filter p)) := by
  refine isSettled_object (fun m hm => h.of_mem_object m (List.mem_filter.mp hm).1) ?_
  exact (List.filter_sublist.map Prod.fst).nodup h.nodup_keys

end RecordFilter.Json
