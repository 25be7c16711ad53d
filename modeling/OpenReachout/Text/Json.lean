import Mathlib.Data.List.Basic

/-!
# JSON values

An object is its members in the order in which they were set; of several members of
one name the last counts. Numbers, Booleans and null are scalars, which stay abstract.
-/

namespace Text

set_option autoImplicit false

inductive Json (Scalar : Type) where
  | scalar (value : Scalar)
  | text (value : String)
  | array (items : List (Json Scalar))
  | object (members : List (String × Json Scalar))

namespace Json

section Members

variable {Value : Type}

/-- The value of a member. -/
def get (key : String) : List (String × Value) → Option Value
  | [] => none
  | (name, value) :: rest => (get key rest).or (if name = key then some value else none)

/-- Sets a member, in its place if there is one. -/
def assign (key : String) (value : Value) : List (String × Value) → List (String × Value)
  | [] => [(key, value)]
  | (name, old) :: rest =>
      if name = key then (key, value) :: rest.filter fun entry => entry.1 ≠ key
      else (name, old) :: assign key value rest

/-- Sets a member unless there is one. -/
def setDefault (key : String) (value : Value) (members : List (String × Value)) :
    List (String × Value) :=
  if (get key members).isSome then members else members ++ [(key, value)]

theorem get_cons (key name : String) (value : Value) (rest : List (String × Value)) :
    get key ((name, value) :: rest) =
      (get key rest).or (if name = key then some value else none) := rfl

theorem get_append (key : String) (first second : List (String × Value)) :
    get key (first ++ second) = (get key second).or (get key first) := by
  induction first with
  | nil => simp [get]
  | cons entry first induction =>
      rw [List.cons_append, get, get, induction, Option.or_assoc]

theorem get_isSome_iff (key : String) (members : List (String × Value)) :
    (get key members).isSome = true ↔ key ∈ members.map Prod.fst := by
  induction members with
  | nil => simp [get]
  | cons entry rest induction =>
      rw [get, Option.isSome_or, Bool.or_eq_true, induction, List.map_cons, List.mem_cons]
      by_cases same : entry.1 = key
      · simp [same]
      · have other : key ≠ entry.1 := fun equal => same equal.symm
        simp [same, other]

theorem get_eq_none_iff (key : String) (members : List (String × Value)) :
    get key members = none ↔ key ∉ members.map Prod.fst := by
  rw [← get_isSome_iff, Bool.not_eq_true, Option.isSome_eq_false_iff, Option.isNone_iff_eq_none]

theorem mem_of_get {key : String} {value : Value} {members : List (String × Value)}
    (found : get key members = some value) : (key, value) ∈ members := by
  induction members with
  | nil => cases found
  | cons entry rest induction =>
      rw [get] at found
      cases later : get key rest with
      | some other =>
          rw [later, Option.some_or] at found
          rw [Option.some.inj found] at later
          exact List.mem_cons_of_mem _ (induction later)
      | none =>
          rw [later, Option.none_or] at found
          by_cases same : entry.1 = key
          · rw [if_pos same] at found
            have equal : entry = (key, value) := Prod.ext same (Option.some.inj found)
            rw [equal]
            exact List.mem_cons_self
          · rw [if_neg same] at found
            cases found

theorem get_filter {key other : String} (different : other ≠ key)
    (members : List (String × Value)) :
    get other (members.filter fun entry => entry.1 ≠ key) = get other members := by
  induction members with
  | nil => rfl
  | cons entry rest induction =>
      by_cases same : entry.1 = key
      · have apart : entry.1 ≠ other := fun equal => different (equal.symm.trans same)
        rw [List.filter_cons, if_neg (by simpa using same), induction, get, if_neg apart,
          Option.or_none]
      · rw [List.filter_cons, if_pos (by simpa using same), get, get, induction]

theorem get_assign (key other : String) (value : Value) (members : List (String × Value)) :
    get other (assign key value members) = if key = other then some value else get other members := by
  induction members with
  | nil => simp [assign, get]
  | cons entry rest induction =>
      rw [assign]
      by_cases same : entry.1 = key
      · rw [if_pos same, get]
        by_cases here : key = other
        · have gone : get other (rest.filter fun entry => entry.1 ≠ key) = none := by
            rw [get_eq_none_iff, ← here]
            simp
          rw [gone, if_pos here, if_pos here, Option.none_or]
        · have apart : entry.1 ≠ other := fun equal => here (same.symm.trans equal)
          rw [get_filter (Ne.symm here), if_neg here, if_neg here, get, if_neg apart]
      · rw [if_neg same, get, get, induction]
        by_cases here : key = other
        · rw [if_pos here, if_pos here, Option.some_or]
        · rw [if_neg here, if_neg here]

theorem get_setDefault {key other : String} (different : key ≠ other) (value : Value)
    (members : List (String × Value)) :
    get other (setDefault key value members) = get other members := by
  unfold setDefault
  by_cases there : (get key members).isSome = true
  · rw [if_pos there]
  · rw [if_neg there, get_append]
    simp [get, different]

end Members

section Nodes

variable {Scalar : Type}

/-- `node.get(key)`, where the node is an object. -/
def member (node : Json Scalar) (key : String) : Option (Json Scalar) :=
  match node with
  | .object members => get key members
  | _ => none

def asText : Json Scalar → Option String
  | .text value => some value
  | _ => none

def IsObject : Json Scalar → Prop
  | .object _ => True
  | _ => False

end Nodes

end Json

end Text
