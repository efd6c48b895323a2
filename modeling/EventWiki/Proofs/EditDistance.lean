import EventWiki.Suggestion
import Mathlib

namespace EventWiki.Suggestion

/-- One character is inserted, deleted, or put in the place of another one. -/
inductive Edit : List Char → List Char → Prop where
  | insert (c : Char) (cs : List Char) : Edit cs (c :: cs)
  | delete (c : Char) (cs : List Char) : Edit (c :: cs) cs
  | substitute (c d : Char) (cs : List Char) : Edit (c :: cs) (d :: cs)
  | behind (c : Char) {source target : List Char} (edit : Edit source target) :
      Edit (c :: source) (c :: target)

inductive Edits : Nat → List Char → List Char → Prop where
  | none (cs : List Char) : Edits 0 cs cs
  | cons {count : Nat} {source middle target : List Char} (edit : Edit source middle)
      (rest : Edits count middle target) : Edits (count + 1) source target

/-- The distance by the first characters of both texts. -/
def distance : List Char → List Char → Nat
  | [], target => target.length
  | source, [] => source.length
  | c :: source, d :: target =>
      min (min (distance (c :: source) target + 1) (distance source (d :: target) + 1))
        (distance source target + if c = d then 0 else 1)
termination_by source target => source.length + target.length

variable {source target middle : List Char} {count : Nat}

@[simp] theorem distance_nil_left (target : List Char) : distance [] target = target.length := by
  rw [distance]

@[simp] theorem distance_nil_right (source : List Char) : distance source [] = source.length := by
  cases source <;> simp [distance]

theorem distance_cons_cons (c d : Char) (source target : List Char) :
    distance (c :: source) (d :: target) =
      min (min (distance (c :: source) target + 1) (distance source (d :: target) + 1))
        (distance source target + if c = d then 0 else 1) := by
  rw [distance]

theorem distance_self (cs : List Char) : distance cs cs = 0 := by
  induction cs with
  | nil => simp
  | cons c cs ih => simp [distance_cons_cons, ih]

theorem distance_cons_right_le (source : List Char) (d : Char) (target : List Char) :
    distance source (d :: target) ≤ distance source target + 1 := by
  cases source with
  | nil => simp
  | cons c source =>
      rw [distance_cons_cons]
      omega

theorem distance_cons_left_le (c : Char) (source target : List Char) :
    distance (c :: source) target ≤ distance source target + 1 := by
  cases target with
  | nil => simp
  | cons d target =>
      rw [distance_cons_cons]
      omega

theorem Edit.distance_le (edit : Edit source middle) (target : List Char) :
    distance source target ≤ distance middle target + 1 := by
  induction edit generalizing target with
  | insert c cs =>
      induction target with
      | nil => simp; omega
      | cons d target ih =>
          have one_more := distance_cons_right_le cs d target
          rw [distance_cons_cons]
          omega
  | delete c cs => exact distance_cons_left_le c cs target
  | substitute c d cs =>
      induction target with
      | nil => simp
      | cons e target ih =>
          rw [distance_cons_cons, distance_cons_cons]
          split <;> split <;> omega
  | @behind c source middle _ below =>
      induction target with
      | nil => simpa using below []
      | cons d target ih =>
          have same_target := below (d :: target)
          have shorter_target := below target
          rw [distance_cons_cons, distance_cons_cons]
          omega

theorem Edits.distance_le (edits : Edits count source target) : distance source target ≤ count := by
  induction edits with
  | none cs => exact Nat.le_of_eq (distance_self cs)
  | @cons count source middle target edit _ ih =>
      exact Nat.le_trans (edit.distance_le target) (Nat.succ_le_succ ih)

theorem Edits.behind (edits : Edits count source target) (c : Char) :
    Edits count (c :: source) (c :: target) := by
  induction edits with
  | none cs => exact .none (c :: cs)
  | cons edit _ ih => exact .cons (.behind c edit) ih

theorem edits_of_nil (target : List Char) : Edits target.length [] target := by
  induction target with
  | nil => exact .none []
  | cons d target ih => exact .cons (.insert d []) (ih.behind d)

theorem edits_to_nil (source : List Char) : Edits source.length source [] := by
  induction source with
  | nil => exact .none []
  | cons c source ih => exact .cons (.delete c source) ih

theorem edits_distance (source target : List Char) :
    Edits (distance source target) source target := by
  induction source generalizing target with
  | nil => simpa using edits_of_nil target
  | cons c source shorter_source =>
      induction target with
      | nil => simpa using edits_to_nil (c :: source)
      | cons d target shorter_target =>
          have inserted := Edits.cons (.insert d (c :: source)) (shorter_target.behind d)
          have deleted := Edits.cons (.delete c source) (shorter_source (d :: target))
          have substituted : Edits (distance source target + if c = d then 0 else 1)
              (c :: source) (d :: target) := by
            split
            · next same => exact same ▸ (shorter_source target).behind c
            · exact .cons (.substitute c d source) ((shorter_source target).behind d)
          rw [distance_cons_cons]
          exact min_rec' (Edits · (c :: source) (d :: target))
            (min_rec' (Edits · (c :: source) (d :: target)) inserted deleted) substituted

theorem Edit.append (edit : Edit source target) (behind : List Char) :
    Edit (source ++ behind) (target ++ behind) := by
  induction edit with
  | insert c cs => exact .insert c (cs ++ behind)
  | delete c cs => exact .delete c (cs ++ behind)
  | substitute c d cs => exact .substitute c d (cs ++ behind)
  | behind c _ ih => exact .behind c ih

theorem Edit.prepend (edit : Edit source target) (front : List Char) :
    Edit (front ++ source) (front ++ target) := by
  induction front with
  | nil => exact edit
  | cons c front ih => exact .behind c ih

theorem Edit.reverse (edit : Edit source target) : Edit source.reverse target.reverse := by
  induction edit with
  | insert c cs => simpa using (Edit.insert c []).prepend cs.reverse
  | delete c cs => simpa using (Edit.delete c []).prepend cs.reverse
  | substitute c d cs => simpa using (Edit.substitute c d []).prepend cs.reverse
  | behind c _ ih => simpa using ih.append [c]

theorem Edits.reverse (edits : Edits count source target) :
    Edits count source.reverse target.reverse := by
  induction edits with
  | none cs => exact .none cs.reverse
  | cons edit _ ih => exact .cons edit.reverse ih

theorem edits_reverse_iff : Edits count source.reverse target.reverse ↔ Edits count source target :=
  ⟨fun edits => by simpa using edits.reverse, Edits.reverse⟩

/-! The rows of the table. The beginnings of the texts are given in reverse. -/

/-- The distances from a text to `seen` with one, two, … more characters. -/
def distancesBehind (source seen : List Char) : List Char → List Nat
  | [] => []
  | d :: rest => distance source (d :: seen) :: distancesBehind source (d :: seen) rest

def row (source target : List Char) : List Nat :=
  distance source [] :: distancesBehind source [] target

theorem nextRow_distances (c : Char) (source seen rest : List Char) :
    nextRow c (distance source seen) (distance (c :: source) seen) rest
        (distancesBehind source seen rest) =
      distancesBehind (c :: source) seen rest := by
  induction rest generalizing seen with
  | nil => rfl
  | cons d rest ih => rw [distancesBehind, nextRow, distancesBehind, ← distance_cons_cons, ih]

theorem extendRow_row (c : Char) (source target : List Char) :
    extendRow target (row source target) c = row (c :: source) target := by
  have first : distance (c :: source) [] = distance source [] + 1 := by simp
  rw [row, extendRow, row, ← first, nextRow_distances]

theorem foldl_extendRow (target before source : List Char) :
    source.foldl (extendRow target) (row before target) =
      row (source.reverse ++ before) target := by
  induction source generalizing before with
  | nil => rfl
  | cons c source ih => simp [extendRow_row, ih]

theorem distancesBehind_nil (seen rest : List Char) :
    distancesBehind [] seen rest = List.range' (seen.length + 1) rest.length := by
  induction rest generalizing seen with
  | nil => rfl
  | cons d rest ih => simp [distancesBehind, ih, List.range'_succ]

theorem row_nil (target : List Char) : row [] target = List.range (target.length + 1) := by
  rw [row, distancesBehind_nil, distance_nil_left, List.range_eq_range', List.range'_succ]
  rfl

theorem getLastD_distances (source seen rest : List Char) :
    (distance source seen :: distancesBehind source seen rest).getLastD 0 =
      distance source (rest.reverse ++ seen) := by
  induction rest generalizing seen with
  | nil => rfl
  | cons d rest ih =>
      have later := ih (d :: seen)
      simpa [distancesBehind] using later

theorem editDistance_eq (source target : String) :
    editDistance source target = distance source.toList.reverse target.toList.reverse := by
  rw [editDistance, ← String.length_toList, ← row_nil, foldl_extendRow, row, getLastD_distances]
  simp

/-- No fewer edits turn the one text into the other. -/
theorem editDistance_isLeast (source target : String) :
    IsLeast {count | Edits count source.toList target.toList} (editDistance source target) := by
  rw [editDistance_eq]
  constructor
  · exact edits_reverse_iff.mp (edits_distance _ _)
  · intro count edits
    exact edits.reverse.distance_le

end EventWiki.Suggestion
