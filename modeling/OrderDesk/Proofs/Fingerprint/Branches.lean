import OrderDesk.Fingerprint
import OrderDesk.Proofs.Number.Numeral
import OrderDesk.Proofs.Text.Quoted

/-!
# The branches of a tree

A branch of a tree leads by names and positions to a scalar or an empty container.  The text of
a branch tells its steps and the text found at its end tells what stands there, so that the
entries of a fingerprint are the branches of the object in another writing.
-/

namespace OrderDesk

namespace Fingerprint

open Digits

/-! ### Ends of branches -/

/-- A scalar or an empty container. -/
inductive Leaf where
  | null
  | bool (value : Bool)
  | num (value : JsonNumber)
  | str (value : String)
  | emptyArray
  | emptyObject
deriving DecidableEq

/-- The tree that a leaf is. -/
def Leaf.json : Leaf → Json
  | .null => .null
  | .bool b => .bool b
  | .num n => .num n
  | .str s => .str s
  | .emptyArray => .arr []
  | .emptyObject => .obj []

/-- Only numbers have the texts of numbers. -/
theorem Leaf.eq_num_of_chars {a : Leaf} {n : JsonNumber} (h : a.json.chars = n.chars) :
  a = .num n
  := by
  have other {c : Char} {cs : List Char} (hdigit : c.isDigit = false)
      (hword : c ∉ ['-', 'N', 'i']) : c :: cs ≠ n.chars :=
    (n.chars_ne_cons hdigit hword cs).symm
  cases a with
  | num m =>
    rw [JsonNumber.chars_inj.1 h]
  | bool b => cases b <;> exact absurd h (other (by decide) (by decide))
  | _ => exact absurd h (other (by decide) (by decide))

/-- The text of a leaf tells the leaf. -/
theorem Leaf.chars_inj {a b : Leaf} :
  a.json.chars = b.json.chars ↔ a = b
  := by
  constructor
  · intro h
    cases a with
    | num m => rw [Leaf.eq_num_of_chars h.symm]
    | str s =>
      cases b with
      | num n => rw [Leaf.eq_num_of_chars h]
      | str t => rw [String.toList_inj.1 (Json.quote_inj.1 h)]
      | bool b => cases b <;> cases h
      | _ => cases h
    | bool a =>
      cases b with
      | num n => rw [Leaf.eq_num_of_chars h]
      | bool b => cases a <;> cases b <;> simp_all [Leaf.json, Json.chars]
      | _ => cases a <;> cases h
    | _ =>
      cases b with
      | num n => rw [Leaf.eq_num_of_chars h]
      | bool b => cases b <;> cases h
      | _ => simp_all [Leaf.json, Json.chars, Json.quote]
  · rintro rfl
    rfl

/-! ### Branches -/

/-- One step down a tree. -/
inductive PathStep where
  | named (key : String)
  | item (index : Nat)
deriving DecidableEq

/-- The text of a step. -/
def PathStep.chars : PathStep → List Char
  | .named key => '.' :: Json.quote key.toList
  | .item index => '[' :: (Nat.toDigits 10 index ++ [']'])

/-- The text of the steps of a branch. -/
def pathChars (path : List PathStep) : List Char := path.flatMap PathStep.chars

theorem PathStep.chars_append_inj {s t : PathStep} {rest rest' : List Char}
    (h : s.chars ++ rest = t.chars ++ rest') :
  s = t ∧ rest = rest'
  := by
  cases s with
  | named key =>
    cases t with
    | named key' =>
      obtain ⟨hkey, hrest⟩ := Json.quote_append_inj (List.cons.inj h).2
      rw [String.toList_inj.1 hkey]
      exact ⟨rfl, hrest⟩
    | item index' => cases (List.cons.inj h).1
  | item index =>
    cases t with
    | named key' => cases (List.cons.inj h).1
    | item index' =>
      have hbracket (rest : List Char) : Halts ([']'] ++ rest) := halts_cons (by decide) rest
      have htail : Nat.toDigits 10 index ++ ([']'] ++ rest)
          = Nat.toDigits 10 index' ++ ([']'] ++ rest') := by
        rw [← List.append_assoc, ← List.append_assoc]
        exact (List.cons.inj h).2
      obtain ⟨hindex, hrest⟩ := append_inj (allDigits_toDigits index) (allDigits_toDigits index')
        (hbracket rest) (hbracket rest') htail
      rw [toDigits_inj.1 hindex]
      exact ⟨rfl, (List.cons.inj hrest).2⟩

theorem PathStep.chars_ne_nil (s : PathStep) :
  s.chars ≠ []
  := by
  cases s <;> nofun

/-- The text of a path tells the path. -/
theorem pathChars_inj {p q : List PathStep} :
  pathChars p = pathChars q ↔ p = q
  := by
  constructor
  · intro h
    induction p generalizing q with
    | nil =>
      cases q with
      | nil => rfl
      | cons t q => 
        rw [pathChars, pathChars, List.flatMap_cons] at h
        exact absurd (List.append_eq_nil_iff.1 h.symm).1 t.chars_ne_nil
    | cons s p ih =>
      cases q with
      | nil =>
        rw [pathChars, pathChars, List.flatMap_cons] at h
        exact absurd (List.append_eq_nil_iff.1 h).1 s.chars_ne_nil
      | cons t q =>
        rw [pathChars, pathChars, List.flatMap_cons, List.flatMap_cons] at h
        obtain ⟨rfl, hrest⟩ := PathStep.chars_append_inj h
        rw [ih hrest]
  · rintro rfl
    rfl

/-- The steps from a tree to a leaf below it, and the leaf. -/
abbrev Branch := List PathStep × Leaf

/-- A branch below a step. -/
def under (s : PathStep) (b : Branch) : Branch := (s :: b.1, b.2)

mutual

/-- The branches of a tree. -/
def branches : Json → List Branch
  | .null => [([], .null)]
  | .bool b => [([], .bool b)]
  | .num n => [([], .num n)]
  | .str s => [([], .str s)]
  | .arr [] => [([], .emptyArray)]
  | .arr (x :: xs) => itemBranches 0 (x :: xs)
  | .obj [] => [([], .emptyObject)]
  | .obj (f :: fs) => fieldBranches (f :: fs)

/-- The branches through the items of an array from some position on. -/
def itemBranches (index : Nat) : List Json → List Branch
  | [] => []
  | x :: xs => (branches x).map (under (.item index)) ++ itemBranches (index + 1) xs

/-- The branches through the fields of an object. -/
def fieldBranches : List (String × Json) → List Branch
  | [] => []
  | (k, x) :: xs => (branches x).map (under (.named k)) ++ fieldBranches xs

end

/-! ### The entries of a fingerprint -/

/-- The entry of a branch behind a path. -/
def entry (path : List Char) (b : Branch) : List Char × List Char :=
  (path ++ pathChars b.1, b.2.json.chars)

theorem entry_under (path : List Char) (s : PathStep) (b : Branch) :
  entry path (under s b) = entry (path ++ s.chars) b
  := by
  rw [entry, entry, under, pathChars, List.flatMap_cons, List.append_assoc]
  rfl

theorem itemPath_eq (path : List Char) (index : Nat) :
  itemPath path index = path ++ (PathStep.item index).chars
  := rfl

theorem namedPath_eq {path : List Char} (h : path ≠ []) (key : String) :
  namedPath path key = path ++ (PathStep.named key).chars
  := by
  rw [namedPath, if_neg]
  · rfl
  · rw [List.isEmpty_iff]
    exact h

mutual

/-- Below a path the leaves of a tree are its branches. -/
theorem leaves_eq {path : List Char} (h : path ≠ []) :
    (x : Json) → leaves path x = (branches x).map (entry path)
  | .null => by simp [leaves, branches, entry, pathChars, Leaf.json]
  | .bool b => by simp [leaves, branches, entry, pathChars, Leaf.json]
  | .num n => by simp [leaves, branches, entry, pathChars, Leaf.json]
  | .str s => by simp [leaves, branches, entry, pathChars, Leaf.json]
  | .arr [] => by simp [leaves, branches, entry, pathChars, Leaf.json]
  | .arr (x :: xs) => itemLeaves_eq h 0 (x :: xs)
  | .obj [] => by simp [leaves, branches, entry, pathChars, Leaf.json]
  | .obj (f :: fs) => fieldLeaves_eq h (f :: fs)

theorem itemLeaves_eq {path : List Char} (h : path ≠ []) (index : Nat) :
    (xs : List Json) → itemLeaves path index xs = (itemBranches index xs).map (entry path)
  | [] => rfl
  | x :: xs => by
    have hpath : itemPath path index ≠ [] := List.append_ne_nil_of_left_ne_nil h _
    rw [itemLeaves, itemBranches, leaves_eq hpath x, itemLeaves_eq h (index + 1) xs,
      List.map_append, List.map_map]
    congr 1
    apply List.map_congr_left
    intro b _
    rw [itemPath_eq, ← entry_under]
    rfl

theorem fieldLeaves_eq {path : List Char} (h : path ≠ []) :
    (fs : List (String × Json)) → fieldLeaves path fs = (fieldBranches fs).map (entry path)
  | [] => rfl
  | (k, x) :: fs => by
    have hpath : namedPath path k ≠ [] := by
      rw [namedPath_eq h]
      apply List.append_ne_nil_of_left_ne_nil h
    rw [fieldLeaves, fieldBranches, leaves_eq hpath x, fieldLeaves_eq h fs,
      List.map_append, List.map_map]
    congr 1
    apply List.map_congr_left
    intro b _
    rw [namedPath_eq h, ← entry_under]
    rfl

end

/-- The entry of a branch of a whole object: no point stands before the first name. -/
def rootEntry (b : Branch) : List Char × List Char := ((pathChars b.1).tail, b.2.json.chars)

/-- The leaves of an object are its branches. -/
theorem fieldLeaves_nil (fs : List (String × Json)) :
  fieldLeaves [] fs = (fieldBranches fs).map rootEntry
  := by
  induction fs with
  | nil => rfl
  | cons f fs ih =>
    obtain ⟨k, x⟩ := f
    have hpath : namedPath [] k ≠ [] := nofun
    rw [fieldLeaves, fieldBranches, leaves_eq hpath x, ih, List.map_append, List.map_map]
    congr 1

end Fingerprint

end OrderDesk
