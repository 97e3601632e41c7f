import Mathlib.Data.List.Pairwise
import RecordFilter.Proofs.Dates.Fields
import RecordFilter.Proofs.Support.First
import RecordFilter.Proofs.Text.EditDistance
import RecordFilter.Proofs.Text.Lowercase

/-!
# `RecordFilter.Proofs.Dates.Suggestions`: which mode is suggested for a text

A text that is the name of no mode is refused, and the fault suggests the first of the modes whose
names are nearest, if they are near enough. Capital and small letters are the same here, and
nearness is the least number of edits.

The names of any two modes are at least three edits apart. So a text within one edit of a name is
nearer to it than to all others, and its mode is the one that is suggested.

* `isFirstLeast_nearest`: the search keeps the first mode with the least distance.
* `three_le_distance`: the names are three edits apart. They are compared letter by letter, not
  by their distances: `length_diff_le_editDistance` says that the letters that one name has and the
  other one lacks are enough to know.
* `parse_suggests`: what is suggested, for every text.
-/

set_option autoImplicit false

namespace RecordFilter

open RecordFilter.Text (Edit Edits IsLowerCase)
open RecordFilter.Proofs.Support

namespace DateMode

/-- The text is the name of the mode but for the case of ASCII letters, and but for one ASCII
character that was inserted, deleted or replaced. -/
def NearlyNames (s : String) (m : DateMode) : Prop :=
  ∃ cs : List Char, (cs = m.name.toList ∨ Edit m.name.toList cs) ∧ (∀ c ∈ cs, c.toNat < 128) ∧
    s.toList.map Char.toLower = cs.map Char.toLower

/-! ### The search for the nearest name -/

/-- The search keeps the first mode with the least distance. -/
theorem isFirstLeast_nearest (s : String) (best : DateMode) (ms : List DateMode) :
    IsFirstLeast (distance s) (best :: ms) (nearest s best ms) := by
  induction ms generalizing best with
  | nil => exact ⟨[], [], rfl, nofun, nofun⟩
  | cons m ms ih =>
    rw [nearest]
    split
    · rename_i hless
      have hle := (ih m).key_le List.mem_cons_self
      exact (ih m).cons (Nat.lt_of_le_of_lt hle hless)
    · rename_i hless
      exact (ih best).insert (Nat.le_of_not_lt hless)

/-- A mode that is looked at again makes no difference. -/
theorem nearest_cons_self (s : String) (best : DateMode) (ms : List DateMode) :
    nearest s best (best :: ms) = nearest s best ms := by
  rw [nearest, ite_self]

/-- The search starts from the first mode of the list. -/
theorem isFirstLeast_nearest_all (s : String) :
    IsFirstLeast (distance s) all (nearest s .today all) := by
  have hall : all = .today :: all.tail := rfl
  rw [hall, nearest_cons_self]
  exact isFirstLeast_nearest s .today all.tail

/-- Every mode is looked at. -/
theorem mem_all (m : DateMode) : m ∈ all := by
  cases m <;> decide

/-- A mode is suggested when it is the first of the nearest ones and near enough. -/
theorem similar?_eq_some_iff {s : String} {m : DateMode} :
    similar? s = some m ↔ m = nearest s .today all ∧ distance s m ≤ 3 := by
  show (if distance s (nearest s .today all) ≤ 3 then some (nearest s .today all) else none)
    = some m ↔ _
  split
  · rename_i hnear
    rw [Option.some.injEq]
    refine ⟨fun h => ?_, fun h => h.1.symm⟩
    rw [← h]
    exact ⟨rfl, hnear⟩
  · rename_i hfar
    refine iff_of_false nofun fun h => hfar ?_
    rw [← h.1]
    exact h.2

/-- Some mode is suggested when some name is near enough. -/
theorem exists_similar?_iff {s : String} :
    (∃ m, similar? s = some m) ↔ ∃ m, distance s m ≤ 3 := by
  simp only [similar?_eq_some_iff]
  constructor
  · exact fun ⟨m, _, hm⟩ => ⟨m, hm⟩
  · intro ⟨m, hm⟩
    have hle := (isFirstLeast_nearest_all s).key_le (mem_all m)
    exact ⟨_, rfl, hle.trans hm⟩

/-! ### Distances between names -/

/-- The letters of the name, all of them small. -/
def letters : DateMode → List Char
  | .today => ['t', 'o', 'd', 'a', 'y']
  | .tomorrow => ['t', 'o', 'm', 'o', 'r', 'r', 'o', 'w']
  | .yesterday => ['y', 'e', 's', 't', 'e', 'r', 'd', 'a', 'y']
  | .oneWeekAgo => ['o', 'n', 'e', 'w', 'e', 'e', 'k', 'a', 'g', 'o']
  | .oneWeekFromNow => ['o', 'n', 'e', 'w', 'e', 'e', 'k', 'f', 'r', 'o', 'm', 'n', 'o', 'w']
  | .oneMonthAgo => ['o', 'n', 'e', 'm', 'o', 'n', 't', 'h', 'a', 'g', 'o']
  | .oneMonthFromNow =>
    ['o', 'n', 'e', 'm', 'o', 'n', 't', 'h', 'f', 'r', 'o', 'm', 'n', 'o', 'w']
  | .daysAgo => ['d', 'a', 'y', 's', 'a', 'g', 'o']
  | .daysFromNow => ['d', 'a', 'y', 's', 'f', 'r', 'o', 'm', 'n', 'o', 'w']
  | .exactDate => ['e', 'x', 'a', 'c', 't', 'd', 'a', 't', 'e']
  | .pastWeek => ['p', 'a', 's', 't', 'w', 'e', 'e', 'k']
  | .pastMonth => ['p', 'a', 's', 't', 'm', 'o', 'n', 't', 'h']
  | .pastYear => ['p', 'a', 's', 't', 'y', 'e', 'a', 'r']
  | .pastNumberOfDays =>
    ['p', 'a', 's', 't', 'n', 'u', 'm', 'b', 'e', 'r', 'o', 'f', 'd', 'a', 'y', 's']
  | .nextWeek => ['n', 'e', 'x', 't', 'w', 'e', 'e', 'k']
  | .nextMonth => ['n', 'e', 'x', 't', 'm', 'o', 'n', 't', 'h']
  | .nextYear => ['n', 'e', 'x', 't', 'y', 'e', 'a', 'r']
  | .nextNumberOfDays =>
    ['n', 'e', 'x', 't', 'n', 'u', 'm', 'b', 'e', 'r', 'o', 'f', 'd', 'a', 'y', 's']
  | .calendarWeek => ['c', 'a', 'l', 'e', 'n', 'd', 'a', 'r', 'w', 'e', 'e', 'k']
  | .calendarMonth => ['c', 'a', 'l', 'e', 'n', 'd', 'a', 'r', 'm', 'o', 'n', 't', 'h']
  | .calendarYear => ['c', 'a', 'l', 'e', 'n', 'd', 'a', 'r', 'y', 'e', 'a', 'r']

/-- The letters of a name in lower case. -/
theorem map_toLower_name (m : DateMode) : m.name.toList.map Char.toLower = m.letters := by
  cases m <;> simp [name, letters]

/-- Names of modes are in ASCII. -/
theorem ascii_of_mem_name (m : DateMode) : ∀ c ∈ m.name.toList, c.toNat < 128 := by
  cases m <;> simp [name]

/-- Names are put in lower case letter by letter. -/
theorem lowercase_name (m : DateMode) : Text.lowercase m.name = m.letters := by
  rw [Text.lowercase, Text.flatMap_lowerChar_of_ascii m.ascii_of_mem_name, map_toLower_name]

/-- Of any two names, one is three letters longer than the other or has three letters more that the
other one lacks. -/
theorem pairwise_letters : all.Pairwise fun m n =>
    3 ≤ m.letters.length - n.letters.length ∨ 3 ≤ n.letters.length - m.letters.length ∨
      3 ≤ (m.letters.diff n.letters).length ∨ 3 ≤ (n.letters.diff m.letters).length := by
  decide +kernel

/-- The names of two modes are at least three edits apart. -/
theorem three_le_distance {m n : DateMode} (h : m ≠ n) :
    3 ≤ Text.editDistance (Text.lowercase m.name) (Text.lowercase n.name) := by
  rw [lowercase_name, lowercase_name]
  have hpairs : all.Pairwise fun m n => 3 ≤ Text.editDistance m.letters n.letters := by
    refine pairwise_letters.imp fun {m n} hmn => ?_
    have hcomm := Text.editDistance_comm m.letters n.letters
    have hlonger := Text.length_sub_le_editDistance m.letters n.letters
    have hshorter := Text.length_sub_le_editDistance n.letters m.letters
    have hmore := Text.length_diff_le_editDistance m.letters n.letters
    have hfewer := Text.length_diff_le_editDistance n.letters m.letters
    omega
  have hsymm : Std.Symm fun m n : DateMode => 3 ≤ Text.editDistance m.letters n.letters :=
    ⟨fun m n hmn => by rwa [Text.editDistance_comm]⟩
  exact hpairs.forall (mem_all m) (mem_all n) h

/-- A text is within one edit of at most one name. -/
theorem eq_of_distance_le_one {s : String} {m n : DateMode} (hm : distance s m ≤ 1)
    (hn : distance s n ≤ 1) : m = n := by
  by_contra hne
  have hfar := three_le_distance hne
  have htriangle := Text.editDistance_triangle (Text.lowercase m.name) (Text.lowercase s)
    (Text.lowercase n.name)
  rw [Text.editDistance_comm (Text.lowercase m.name) (Text.lowercase s)] at htriangle
  unfold distance at hm hn
  omega

/-- The mode whose name is within one edit of a text is suggested. -/
theorem similar?_of_distance_le_one {s : String} {m : DateMode} (h : distance s m ≤ 1) :
    similar? s = some m := by
  have hle := ((isFirstLeast_nearest_all s).key_le (mem_all m)).trans h
  rw [similar?_eq_some_iff]
  exact ⟨eq_of_distance_le_one h hle, h.trans (by decide)⟩

/-! ### Texts near a name -/

/-- A text that nearly names a mode is within one edit of its name. -/
theorem NearlyNames.distance_le_one {s : String} {m : DateMode} (h : NearlyNames s m) :
    distance s m ≤ 1 := by
  obtain ⟨cs, hcs, hascii, hcase⟩ := h
  -- The text is in ASCII as well, so both are put in lower case letter by letter.
  have hs : ∀ c ∈ s.toList, c.toNat < 128 := by
    intro c hc
    have hmem := List.mem_map_of_mem (f := Char.toLower) hc
    rw [hcase] at hmem
    obtain ⟨d, hd, hdc⟩ := List.mem_map.mp hmem
    exact Text.ascii_of_toLower_eq hdc.symm (hascii d hd)
  have hlower : Text.lowercase s = cs.map Char.toLower := by
    rw [Text.lowercase, Text.flatMap_lowerChar_of_ascii hs, hcase]
  have hname : Text.lowercase m.name = m.name.toList.map Char.toLower := by
    rw [lowercase_name, map_toLower_name]
  rw [distance, hlower, hname]
  rcases hcs with rfl | hedit
  · rw [Text.editDistance_self]
    exact Nat.zero_le 1
  · exact (Edits.single (hedit.map Char.toLower).symm).editDistance_le

/-- Names of modes stay in ASCII when they are put in lower case. -/
theorem ascii_of_mem_letters (m : DateMode) : ∀ c ∈ m.letters, c.toNat < 128 := by
  cases m <;> simp [letters]

/-- The distance of a text to a name is the least number of edits, whichever small letters a
capital sigma in the text becomes: no name has a sigma. -/
theorem isLeast_distance {s : String} {lower : List Char} (h : IsLowerCase s lower)
    (m : DateMode) : IsLeast {n | Edits n lower (Text.lowercase m.name)} (distance s m) := by
  have hsigma : ∀ c d : Char, (c = d ∨ c = Text.smallSigma ∧ d = Text.finalSigma) →
      ∀ y ∈ Text.lowercase m.name, c = y ↔ d = y := by
    rintro c d (rfl | ⟨rfl, rfl⟩) y hy
    · exact Iff.rfl
    · rw [lowercase_name] at hy
      have hascii := m.ascii_of_mem_letters y hy
      refine iff_of_false ?_ ?_
      · rintro rfl
        exact absurd hascii (by decide)
      · rintro rfl
        exact absurd hascii (by decide)
  have hdistance : distance s m = Text.editDistance lower (Text.lowercase m.name) :=
    Text.editDistance_congr h.forall₂ hsigma
  rw [hdistance]
  exact Text.isLeast_editDistance _ _

/-- A text that is the name of no mode is reported with the mode to suggest for it. -/
theorem parse_of_forall_ne {s : String} (h : ∀ m : DateMode, m.name ≠ s) :
    parse s = .error (.invalidDate (.unknownMode s (similar? s))) := by
  have hnone : ofName? s = none := by
    rw [ofName?, List.find?_eq_none]
    intro m _
    rw [beq_iff_eq]
    exact h m
  rw [parse, hnone]

end DateMode

/-- A text that is the name of no mode is refused, with a suggestion exactly when some name is at
most three edits away. The suggestion is the first mode at the least distance, and where a name is
at most one edit away it is the mode of this name. So it is after a change of letter case and of one
character. The distance is that of the texts in lower case. -/
theorem parse_suggests (s : String) (hs : ∀ m : DateMode, m.name ≠ s) :
    ∃ suggestion, DateMode.parse s = .error (.invalidDate (.unknownMode s suggestion)) ∧
      ((∃ m, suggestion = some m) ↔ ∃ m, DateMode.distance s m ≤ 3) ∧
      (∀ m, suggestion = some m → IsFirstLeast (DateMode.distance s) DateMode.all m) ∧
      (∀ m, DateMode.distance s m ≤ 1 → suggestion = some m) ∧
      (∀ m, DateMode.NearlyNames s m → DateMode.distance s m ≤ 1) ∧
      ∀ m lower, IsLowerCase s lower →
        IsLeast {n | Edits n lower (Text.lowercase m.name)} (DateMode.distance s m) := by
  refine ⟨DateMode.similar? s, DateMode.parse_of_forall_ne hs, DateMode.exists_similar?_iff, ?_,
    fun m h => DateMode.similar?_of_distance_le_one h, fun m h => h.distance_le_one,
    fun m lower h => DateMode.isLeast_distance h m⟩
  intro m hm
  rw [(DateMode.similar?_eq_some_iff.mp hm).1]
  exact DateMode.isFirstLeast_nearest_all s

/-- A name in capital letters with a stroke between its words. -/
theorem past_week_suggested :
    let s := "PAST_WEEK"
    (∀ m : DateMode, m.name ≠ s) ∧ DateMode.NearlyNames s .pastWeek ∧
      DateMode.distance s .pastWeek ≤ 1 ∧
      DateMode.parse s = .error (.invalidDate (.unknownMode s (some .pastWeek))) := by
  intro s
  have hs : ∀ m : DateMode, m.name ≠ s := by
    intro m
    cases m <;> decide
  have hname : DateMode.NearlyNames s .pastWeek :=
    ⟨"past_Week".toList, .inr (.insert "past".toList '_' "Week".toList), by simp, by decide⟩
  obtain ⟨suggestion, hparse, -, -, hnear, hnearly, -⟩ := parse_suggests s hs
  have hdistance := hnearly _ hname
  rw [hnear _ hdistance] at hparse
  exact ⟨hs, hname, hdistance, hparse⟩

end RecordFilter
