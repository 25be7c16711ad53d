import OpenReachout.Adapters.Gemini
import Mathlib.Logic.Relation
import Mathlib.Order.WellFoundedSet

/-!
# Schemas keep the data model

A schema is read along its paths, with references followed. What `clean` does to a node
goes by the names of its members, and the names of the properties are members too.
-/

namespace OpenReachout

open Text

set_option autoImplicit false

variable {Scalar : Type} {str : Json Scalar → String} {defs : Members Scalar}

section Termination

variable {first second : Json Scalar → Option (Json Scalar)}

theorem cleanMember_mono (more : ∀ node out, first node = some out → second node = some out)
    {out result : Members Scalar} {key : String} {value : Json Scalar}
    (done : cleanMember first out key value = some result) :
    cleanMember second out key value = some result := by
  unfold cleanMember at done ⊢
  split_ifs at done ⊢ with dropped low high
  · exact done
  · exact done
  · exact done
  · obtain ⟨cleaned, cleans, same⟩ := Option.map_eq_some_iff.1 done
    rw [more value cleaned cleans, ← same]
    rfl

theorem cleanMembers_mono (more : ∀ node out, first node = some out → second node = some out)
    {members out result : Members Scalar} (done : cleanMembers first out members = some result) :
    cleanMembers second out members = some result := by
  induction members generalizing out with
  | nil => exact done
  | cons entry rest induction =>
      rw [cleanMembers] at done ⊢
      obtain ⟨next, here, later⟩ := Option.bind_eq_some_iff.1 done
      rw [cleanMember_mono more here]
      exact induction later

theorem cleanItems_mono (more : ∀ node out, first node = some out → second node = some out)
    {items result : List (Json Scalar)} (done : cleanItems first items = some result) :
    cleanItems second items = some result := by
  induction items generalizing result with
  | nil => exact done
  | cons item rest induction =>
      rw [cleanItems] at done ⊢
      obtain ⟨cleaned, here, others⟩ := Option.bind_eq_some_iff.1 done
      obtain ⟨tail, later, same⟩ := Option.map_eq_some_iff.1 others
      rw [more item cleaned here, Option.bind_some, induction later, ← same]
      rfl

theorem clean_succ (fuel : Nat) : ∀ node out, clean str defs fuel node = some out →
    clean str defs (fuel + 1) node = some out := by
  induction fuel with
  | zero =>
      intro node out done
      rw [clean] at done
      cases done
  | succ fuel induction =>
      intro node out done
      cases node with
      | scalar value => exact done
      | text value => exact done
      | array items =>
          rw [clean] at done ⊢
          obtain ⟨cleaned, each, same⟩ := Option.map_eq_some_iff.1 done
          rw [cleanItems_mono induction each, ← same]
          rfl
      | object members =>
          rw [clean] at done ⊢
          cases refers : Json.get "$ref" members with
          | some ref =>
              rw [refers] at done
              exact induction _ out done
          | none =>
              rw [refers] at done
              obtain ⟨cleaned, each, same⟩ := Option.map_eq_some_iff.1 done
              dsimp only
              rw [cleanMembers_mono induction each, ← same]
              rfl

/-- More fuel changes nothing. -/
theorem clean_mono {fuel more : Nat} {node out : Json Scalar}
    (done : clean str defs fuel node = some out) (enough : fuel ≤ more) :
    clean str defs more node = some out := by
  induction enough with
  | refl => exact done
  | step _ induction => exact clean_succ _ node out induction

theorem clean_unique {fuel other : Nat} {node out late : Json Scalar}
    (done : clean str defs fuel node = some out) (again : clean str defs other node = some late) :
    out = late := by
  have here := clean_mono done (Nat.le_max_left fuel other)
  have there := clean_mono again (Nat.le_max_right fuel other)
  exact Option.some.inj (here.symm.trans there)

/-- A node names a definition, itself or at any depth. -/
inductive Mentions (str : Json Scalar → String) : Json Scalar → String → Prop where
  | here (members : Members Scalar) (ref : Json Scalar)
      (refers : Json.get "$ref" members = some ref) : Mentions str (.object members) (refName str ref)
  | member (members : Members Scalar) (key : String) (value : Json Scalar) (name : String)
      (inside : (key, value) ∈ members) (mentions : Mentions str value name) :
      Mentions str (.object members) name
  | item (items : List (Json Scalar)) (value : Json Scalar) (name : String)
      (inside : value ∈ items) (mentions : Mentions str value name) : Mentions str (.array items) name

/-- The definition under the second name mentions the first. -/
def Refers (str : Json Scalar → String) (defs : Members Scalar) (other name : String) : Prop :=
  ∃ body, Json.get name defs = some body ∧ Mentions str body other

/-- No definition leads back to itself. -/
def Acyclic (str : Json Scalar → String) (defs : Members Scalar) : Prop :=
  ∀ name, ¬ Relation.TransGen (Refers str defs) name name

theorem refers_wellFounded (acyclic : Acyclic str defs) : WellFounded (Refers str defs) := by
  have strict : IsStrictOrder String (Relation.TransGen (Refers str defs)) :=
    { irrefl := acyclic, trans := fun _ _ _ => Relation.TransGen.trans }
  have finite : {name | name ∈ defs.map Prod.fst}.Finite := List.finite_toSet _
  have founded : {name | name ∈ defs.map Prod.fst}.WellFoundedOn
      (Relation.TransGen (Refers str defs)) := finite.wellFoundedOn
  have undefined : ∀ name, name ∉ defs.map Prod.fst → Acc (Refers str defs) name := by
    rintro name absent
    constructor
    rintro other ⟨body, defined, _⟩
    rw [(Json.get_eq_none_iff name defs).2 absent] at defined
    cases defined
  constructor
  intro name
  by_cases listed : name ∈ defs.map Prod.fst
  · apply founded.induction (P := Acc (Refers str defs)) listed
    intro later _ earlier
    constructor
    intro other refers
    by_cases known : other ∈ defs.map Prod.fst
    · exact earlier other known (.single refers)
    · exact undefined other known
  · exact undefined name listed

def Halts (str : Json Scalar → String) (defs : Members Scalar) (node : Json Scalar) : Prop :=
  ∃ fuel out, clean str defs fuel node = some out

theorem halts_array {items : List (Json Scalar)} (each : ∀ item ∈ items, Halts str defs item) :
    Halts str defs (.array items) := by
  have all : ∃ fuel outs, cleanItems (clean str defs fuel) items = some outs := by
    induction items with
    | nil => exact ⟨0, [], rfl⟩
    | cons item rest induction =>
        obtain ⟨fuel, out, done⟩ := each item List.mem_cons_self
        obtain ⟨more, outs, others⟩ := induction fun other member =>
          each other (List.mem_cons_of_mem _ member)
        refine ⟨max fuel more, out :: outs, ?_⟩
        have here := clean_mono done (Nat.le_max_left fuel more)
        have later : cleanItems (clean str defs (max fuel more)) rest = some outs :=
          cleanItems_mono (fun _ _ result => clean_mono result (Nat.le_max_right fuel more)) others
        rw [cleanItems, here, Option.bind_some, later]
        rfl
  obtain ⟨fuel, outs, done⟩ := all
  refine ⟨fuel + 1, .array outs, ?_⟩
  rw [clean, done]
  rfl

theorem halts_members {members : Members Scalar}
    (each : ∀ entry ∈ members, Halts str defs entry.2) (out : Members Scalar) :
    ∃ fuel result, cleanMembers (clean str defs fuel) out members = some result := by
  induction members generalizing out with
  | nil => exact ⟨0, out, rfl⟩
  | cons entry rest induction =>
      obtain ⟨fuel, cleaned, done⟩ := each entry List.mem_cons_self
      have here : ∃ next, cleanMember (clean str defs fuel) out entry.1 entry.2 = some next := by
        unfold cleanMember
        split_ifs
        · exact ⟨_, rfl⟩
        · exact ⟨_, rfl⟩
        · exact ⟨_, rfl⟩
        · rw [done]
          exact ⟨_, rfl⟩
      obtain ⟨next, step⟩ := here
      obtain ⟨more, result, others⟩ := induction (fun other member =>
        each other (List.mem_cons_of_mem _ member)) next
      refine ⟨max fuel more, result, ?_⟩
      rw [cleanMembers, cleanMember_mono (fun _ _ final =>
        clean_mono final (Nat.le_max_left fuel more)) step, Option.bind_some]
      exact cleanMembers_mono (fun _ _ final => clean_mono final (Nat.le_max_right fuel more)) others

/-- A node is cleaned in finitely many steps if the definitions that it mentions are. -/
theorem halts_of_mentions : ∀ node : Json Scalar,
    (∀ name, Mentions str node name → Halts str defs ((Json.get name defs).getD (.object []))) →
      Halts str defs node
  | .scalar value, _ => ⟨1, .scalar value, rfl⟩
  | .text value, _ => ⟨1, .text value, rfl⟩
  | .array items, mentioned => halts_array fun item inside =>
      halts_of_mentions item fun name mentions =>
        mentioned name (.item items item name inside mentions)
  | .object members, mentioned => by
      cases refers : Json.get "$ref" members with
      | some ref =>
          obtain ⟨fuel, out, done⟩ := mentioned _ (.here members ref refers)
          refine ⟨fuel + 1, out, ?_⟩
          rw [clean, refers]
          exact done
      | none =>
          have each : ∀ entry ∈ members, Halts str defs entry.2 := fun entry inside =>
            halts_of_mentions entry.2 fun name mentions =>
              mentioned name (.member members entry.1 entry.2 name inside mentions)
          obtain ⟨fuel, result, done⟩ := halts_members each []
          refine ⟨fuel + 1, .object result, ?_⟩
          rw [clean, refers, done]
          rfl
termination_by node => sizeOf node
decreasing_by
  · have smaller := List.sizeOf_lt_of_mem inside
    simp only [Json.array.sizeOf_spec]
    omega
  · have smaller := List.sizeOf_lt_of_mem inside
    have pair : sizeOf entry = 1 + sizeOf entry.1 + sizeOf entry.2 := rfl
    simp only [Json.object.sizeOf_spec]
    omega

theorem clean_halts (acyclic : Acyclic str defs) (node : Json Scalar) : Halts str defs node := by
  have defined : ∀ name, Halts str defs ((Json.get name defs).getD (.object [])) := by
    intro name
    induction name using (refers_wellFounded acyclic).induction with
    | h name induction =>
        cases found : Json.get name defs with
        | none => exact ⟨1, .object [], rfl⟩
        | some body =>
            rw [Option.getD_some]
            apply halts_of_mentions
            intro other mentions
            exact induction other ⟨body, found, mentions⟩
  exact halts_of_mentions node fun name _ => defined name

end Termination

section Paths

/-- From a schema to one inside of it. What is below `additionalProperties` is left out,
as the API knows no such keyword. -/
inductive SchemaStep where
  | entry (keyword name : String)
  | under (keyword : String)
  | item (keyword : String) (index : Nat)

/-- Below these keywords there are schemas under names of their own. -/
def mapKeywords : List String := ["properties", "patternProperties"]

def schemaKeywords : List String :=
  ["items", "contains", "propertyNames", "not", "if", "then", "else"]

def listKeywords : List String := ["prefixItems", "anyOf", "oneOf", "allOf"]

def entries (node : Json Scalar) (keyword : String) : Members Scalar :=
  match node.member keyword with
  | some (.object members) => members
  | _ => []

def listed (node : Json Scalar) (keyword : String) : List (Json Scalar) :=
  match node.member keyword with
  | some (.array items) => items
  | _ => []

def child (node : Json Scalar) : SchemaStep → Option (Json Scalar)
  | .entry keyword name =>
      if keyword ∈ mapKeywords then Json.get name (entries node keyword) else none
  | .under keyword => if keyword ∈ schemaKeywords then node.member keyword else none
  | .item keyword index => if keyword ∈ listKeywords then (listed node keyword)[index]? else none

def propertyNames (node : Json Scalar) : List String := (entries node "properties").map Prod.fst

def required (node : Json Scalar) : List String := (listed node "required").filterMap Json.asText

/-- What a node stands for once its references are followed. -/
inductive Resolves (str : Json Scalar → String) (defs : Members Scalar) :
    Json Scalar → Json Scalar → Prop where
  | plain (node : Json Scalar) (free : node.member "$ref" = none) : Resolves str defs node node
  | follow (node ref target : Json Scalar) (refers : node.member "$ref" = some ref)
      (resolves : Resolves str defs (dereference str defs ref) target) :
      Resolves str defs node target

/-- The node at a path of a schema, with all references inlined. -/
inductive Reaches (str : Json Scalar → String) (defs : Members Scalar) (root : Json Scalar) :
    List SchemaStep → Json Scalar → Prop where
  | root (node : Json Scalar) (resolves : Resolves str defs root node) :
      Reaches str defs root [] node
  | step (path : List SchemaStep) (node next target : Json Scalar) (step : SchemaStep)
      (reaches : Reaches str defs root path node) (inside : child node step = some next)
      (resolves : Resolves str defs next target) : Reaches str defs root (path ++ [step]) target

/-- The node at a path, as it stands. -/
def walk (node : Json Scalar) (path : List SchemaStep) : Option (Json Scalar) :=
  path.foldl (fun here step => here.bind fun node => child node step) (some node)

theorem walk_snoc (node : Json Scalar) (path : List SchemaStep) (step : SchemaStep) :
    walk node (path ++ [step]) = (walk node path).bind fun here => child here step := by
  unfold walk
  rw [List.foldl_append]
  rfl

/-- The same properties, and the same of them required. -/
structure SameProperties (node cleaned : Json Scalar) : Prop where
  names : ∀ name, name ∈ propertyNames cleaned ↔ name ∈ propertyNames node
  required : required cleaned = required node

/-- The paths are those of the schema, with the same properties at each, and no
reference is left, nor a definition. -/
structure Preserves (str : Json Scalar → String) (raw cleaned : Members Scalar) : Prop where
  kept : ∀ path node,
    Reaches str (definitions raw) (.object (withoutDefinitions raw)) path node →
      ∃ late, walk (.object cleaned) path = some late ∧ SameProperties node late
  grounded : ∀ path late, walk (.object cleaned) path = some late →
    ∃ node, Reaches str (definitions raw) (.object (withoutDefinitions raw)) path node ∧
      SameProperties node late
  inlined : ∀ path late, walk (.object cleaned) path = some late →
    late.member "$ref" = none ∧ late.member "$defs" = none

/-- What a schema is documented to be: definitions are objects, and stand at the root. -/
structure Documented (str : Json Scalar → String) (raw : Members Scalar) : Prop where
  bodies : ∀ name body, Json.get name (definitions raw) = some body → body.IsObject
  rooted : ∀ path node,
    Reaches str (definitions raw) (.object (withoutDefinitions raw)) path node →
      node.member "$defs" = none

/-- The names that `clean` takes for keywords, whatever they stand for. -/
def reserved : List String :=
  ["additionalProperties", "title", "default", "exclusiveMinimum", "exclusiveMaximum", "$ref"]

/-- No property is named like one of the keywords. -/
def Unreserved (node : Json Scalar) : Prop :=
  ∀ keyword ∈ mapKeywords, ∀ name ∈ (entries node keyword).map Prod.fst, name ∉ reserved

end Paths

section Cleaning

/-- A member that goes into the new node under its own name, alone. -/
structure Carried (key : String) (members : Members Scalar) : Prop where
  kept : key ∉ droppedKeys
  not_minimum : key ≠ "exclusiveMinimum"
  not_maximum : key ≠ "exclusiveMaximum"
  minimum : key = "minimum" → "exclusiveMinimum" ∉ members.map Prod.fst
  maximum : key = "maximum" → "exclusiveMaximum" ∉ members.map Prod.fst

theorem Carried.rest {key : String} {entry : String × Json Scalar} {rest : Members Scalar}
    (carried : Carried key (entry :: rest)) : Carried key rest := by
  refine ⟨carried.kept, carried.not_minimum, carried.not_maximum, ?_, ?_⟩
  · intro same member
    exact carried.minimum same (List.mem_cons_of_mem _ member)
  · intro same member
    exact carried.maximum same (List.mem_cons_of_mem _ member)

variable {cleans : Json Scalar → Option (Json Scalar)}

theorem get_cleanMember {out result : Members Scalar} {entry : String × Json Scalar} {key : String}
    {rest : Members Scalar} (carried : Carried key (entry :: rest))
    (done : cleanMember cleans out entry.1 entry.2 = some result) :
    if entry.1 = key then ∃ cleaned, cleans entry.2 = some cleaned ∧ Json.get key result = some cleaned
      else Json.get key result = Json.get key out := by
  unfold cleanMember at done
  split_ifs at done with dropped low high
  · have apart : entry.1 ≠ key := fun same => carried.kept (same ▸ dropped)
    rw [if_neg apart, ← Option.some.inj done]
  · have apart : entry.1 ≠ key := fun same => carried.not_minimum (same.symm.trans low)
    have other : "minimum" ≠ key := by
      intro same
      apply carried.minimum same.symm
      rw [← low]
      exact List.mem_cons_self
    rw [if_neg apart, ← Option.some.inj done, Json.get_setDefault other]
  · have apart : entry.1 ≠ key := fun same => carried.not_maximum (same.symm.trans high)
    have other : "maximum" ≠ key := by
      intro same
      apply carried.maximum same.symm
      rw [← high]
      exact List.mem_cons_self
    rw [if_neg apart, ← Option.some.inj done, Json.get_setDefault other]
  · obtain ⟨cleaned, cleans_entry, set⟩ := Option.map_eq_some_iff.1 done
    rw [← set, Json.get_assign]
    by_cases same : entry.1 = key
    · rw [if_pos same, if_pos same]
      exact ⟨cleaned, cleans_entry, rfl⟩
    · rw [if_neg same, if_neg same]

/-- A carried member of the new node is the old one, cleaned. -/
theorem get_cleanMembers {members out result : Members Scalar} {key : String}
    (carried : Carried key members) (done : cleanMembers cleans out members = some result) :
    match Json.get key members with
    | some value => ∃ cleaned, cleans value = some cleaned ∧ Json.get key result = some cleaned
    | none => Json.get key result = Json.get key out := by
  induction members generalizing out with
  | nil =>
      rw [cleanMembers] at done
      rw [Option.some.inj done]
      rfl
  | cons entry rest induction =>
      rw [cleanMembers] at done
      obtain ⟨next, here, later⟩ := Option.bind_eq_some_iff.1 done
      have step := get_cleanMember carried here
      have others := induction carried.rest later
      rw [Json.get]
      cases found : Json.get key rest with
      | some value =>
          rw [found] at others
          exact others
      | none =>
          rw [found] at others
          rw [Option.none_or]
          by_cases same : entry.1 = key
          · rw [if_pos same] at step ⊢
            obtain ⟨cleaned, cleans_entry, set⟩ := step
            exact ⟨cleaned, cleans_entry, others.trans set⟩
          · rw [if_neg same] at step ⊢
            exact others.trans step

/-- The keywords that go are not among the members of the new node. -/
theorem get_cleanMembers_gone {members out result : Members Scalar} {key : String}
    (gone : key ∈ droppedKeys ∨ key = "exclusiveMinimum" ∨ key = "exclusiveMaximum")
    (done : cleanMembers cleans out members = some result) :
    Json.get key result = Json.get key out := by
  induction members generalizing out with
  | nil =>
      rw [cleanMembers] at done
      rw [Option.some.inj done]
  | cons entry rest induction =>
      rw [cleanMembers] at done
      obtain ⟨next, here, later⟩ := Option.bind_eq_some_iff.1 done
      rw [induction later]
      have not_minimum : "minimum" ≠ key := by
        rintro rfl
        exact absurd gone (by decide)
      have not_maximum : "maximum" ≠ key := by
        rintro rfl
        exact absurd gone (by decide)
      unfold cleanMember at here
      split_ifs at here with dropped low high
      · rw [← Option.some.inj here]
      · rw [← Option.some.inj here, Json.get_setDefault not_minimum]
      · rw [← Option.some.inj here, Json.get_setDefault not_maximum]
      · obtain ⟨cleaned, _, set⟩ := Option.map_eq_some_iff.1 here
        have apart : entry.1 ≠ key := by
          rintro rfl
          rcases gone with there | there | there
          · exact dropped there
          · exact low there
          · exact high there
        rw [← set, Json.get_assign, if_neg apart]

theorem forall_cleanItems {items result : List (Json Scalar)}
    (done : cleanItems cleans items = some result) :
    List.Forall₂ (fun item cleaned => cleans item = some cleaned) items result := by
  induction items generalizing result with
  | nil =>
      rw [cleanItems] at done
      rw [← Option.some.inj done]
      exact List.Forall₂.nil
  | cons item rest induction =>
      rw [cleanItems] at done
      obtain ⟨cleaned, here, others⟩ := Option.bind_eq_some_iff.1 done
      obtain ⟨tail, later, same⟩ := Option.map_eq_some_iff.1 others
      rw [← same]
      exact List.Forall₂.cons here (induction later)

/-- A node and what `clean` makes of it. -/
def Cleans (str : Json Scalar → String) (defs : Members Scalar) (node out : Json Scalar) : Prop :=
  ∃ fuel, clean str defs fuel node = some out

theorem plain_of_resolves {node target : Json Scalar} (resolves : Resolves str defs node target) :
    target.member "$ref" = none := by
  induction resolves with
  | plain node free => exact free
  | follow node ref target refers resolves induction => exact induction

theorem cleans_reference {members : Members Scalar} {ref out : Json Scalar}
    (refers : Json.get "$ref" members = some ref) :
    Cleans str defs (.object members) out ↔ Cleans str defs (dereference str defs ref) out := by
  constructor
  · rintro ⟨fuel, done⟩
    cases fuel with
    | zero =>
        rw [clean] at done
        cases done
    | succ fuel =>
        rw [clean, refers] at done
        exact ⟨fuel, done⟩
  · rintro ⟨fuel, done⟩
    refine ⟨fuel + 1, ?_⟩
    rw [clean, refers]
    exact done

theorem cleans_of_resolves {node target out : Json Scalar}
    (resolves : Resolves str defs node target) (cleans : Cleans str defs node out) :
    Cleans str defs target out := by
  induction resolves with
  | plain node free => exact cleans
  | follow node ref target refers resolves induction =>
      cases node with
      | object members => exact induction ((cleans_reference refers).1 cleans)
      | scalar value => cases refers
      | text value => cases refers
      | array items => cases refers

theorem resolves_of_cleans {node out : Json Scalar} (cleans : Cleans str defs node out) :
    ∃ target, Resolves str defs node target ∧ Cleans str defs target out := by
  obtain ⟨fuel, done⟩ := cleans
  induction fuel generalizing node with
  | zero =>
      rw [clean] at done
      cases done
  | succ fuel induction =>
      cases refers : node.member "$ref" with
      | none => exact ⟨node, .plain node refers, fuel + 1, done⟩
      | some ref =>
          cases node with
          | object members =>
              have there : Json.get "$ref" members = some ref := refers
              rw [clean, there] at done
              obtain ⟨target, resolves, cleans⟩ := induction done
              exact ⟨target, .follow _ ref target refers resolves, cleans⟩
          | scalar value => cases refers
          | text value => cases refers
          | array items => cases refers

/-- What is made of an object without a reference. -/
theorem cleans_object {members : Members Scalar} {out : Json Scalar}
    (plain : Json.get "$ref" members = none) (cleans : Cleans str defs (.object members) out) :
    ∃ fuel result, out = .object result ∧
      cleanMembers (clean str defs fuel) [] members = some result := by
  obtain ⟨fuel, done⟩ := cleans
  cases fuel with
  | zero =>
      rw [clean] at done
      cases done
  | succ fuel =>
      rw [clean, plain] at done
      obtain ⟨result, each, same⟩ := Option.map_eq_some_iff.1 done
      exact ⟨fuel, result, same.symm, each⟩

theorem cleans_array {items : List (Json Scalar)} {out : Json Scalar}
    (cleans : Cleans str defs (.array items) out) :
    ∃ result, out = .array result ∧ List.Forall₂ (Cleans str defs) items result := by
  obtain ⟨fuel, done⟩ := cleans
  cases fuel with
  | zero =>
      rw [clean] at done
      cases done
  | succ fuel =>
      rw [clean] at done
      obtain ⟨result, each, same⟩ := Option.map_eq_some_iff.1 done
      refine ⟨result, same.symm, ?_⟩
      exact (forall_cleanItems each).imp fun item cleaned done => ⟨fuel, done⟩

theorem cleans_scalar {value : Scalar} {out : Json Scalar}
    (cleans : Cleans str defs (.scalar value) out) : out = .scalar value := by
  obtain ⟨fuel, done⟩ := cleans
  cases fuel with
  | zero =>
      rw [clean] at done
      cases done
  | succ fuel => exact (Option.some.inj done).symm

theorem cleans_text {value : String} {out : Json Scalar}
    (cleans : Cleans str defs (.text value) out) : out = .text value := by
  obtain ⟨fuel, done⟩ := cleans
  cases fuel with
  | zero =>
      rw [clean] at done
      cases done
  | succ fuel => exact (Option.some.inj done).symm

/-- No node that `clean` returns has a member of such a name. -/
theorem reserved_absent {node out : Json Scalar} (cleans : Cleans str defs node out) {name : String}
    (taken : name ∈ reserved) : out.member name = none := by
  obtain ⟨target, resolves, cleans⟩ := resolves_of_cleans cleans
  have plain := plain_of_resolves resolves
  cases target with
  | scalar value =>
      rw [cleans_scalar cleans]
      rfl
  | text value =>
      rw [cleans_text cleans]
      rfl
  | array items =>
      obtain ⟨result, same, -⟩ := cleans_array cleans
      rw [same]
      rfl
  | object members =>
      have free : Json.get "$ref" members = none := plain
      obtain ⟨fuel, result, same, done⟩ := cleans_object free cleans
      rw [same]
      change Json.get name result = none
      by_cases reference : name = "$ref"
      · have carried : Carried "$ref" members := by
          refine ⟨by decide, by decide, by decide, ?_, ?_⟩
          · intro wrong
            exact absurd wrong (by decide)
          · intro wrong
            exact absurd wrong (by decide)
        have kept := get_cleanMembers carried done
        rw [free] at kept
        rw [reference]
        exact kept
      · have gone : name ∈ droppedKeys ∨ name = "exclusiveMinimum" ∨ name = "exclusiveMaximum" := by
          simp only [reserved, List.mem_cons, List.not_mem_nil, or_false] at taken
          simp only [droppedKeys, List.mem_cons, List.not_mem_nil, or_false]
          tauto
        exact get_cleanMembers_gone gone done

end Cleaning

section Correspondence

/-- A keyword that stays what it is. -/
structure Keyword (key : String) : Prop where
  kept : key ∉ droppedKeys
  not_minimum : key ≠ "exclusiveMinimum" ∧ key ≠ "minimum"
  not_maximum : key ≠ "exclusiveMaximum" ∧ key ≠ "maximum"

instance (key : String) : Decidable (Keyword key) :=
  decidable_of_iff (key ∉ droppedKeys ∧ (key ≠ "exclusiveMinimum" ∧ key ≠ "minimum") ∧
      key ≠ "exclusiveMaximum" ∧ key ≠ "maximum")
    ⟨fun all => ⟨all.1, all.2.1, all.2.2⟩, fun key => ⟨key.kept, key.not_minimum, key.not_maximum⟩⟩

theorem Keyword.carried {key : String} (keyword : Keyword key) (members : Members Scalar) :
    Carried key members :=
  ⟨keyword.kept, keyword.not_minimum.1, keyword.not_maximum.1,
    fun same => absurd same keyword.not_minimum.2, fun same => absurd same keyword.not_maximum.2⟩

/-- A name that is not reserved, among names that are not. -/
theorem carried_of_unreserved {members : Members Scalar} {name : String}
    (unreserved : ∀ other ∈ members.map Prod.fst, other ∉ reserved) (free : name ∉ reserved) :
    Carried name members := by
  refine ⟨?_, ?_, ?_, ?_, ?_⟩
  · intro dropped
    apply free
    simp only [droppedKeys, List.mem_cons, List.not_mem_nil, or_false] at dropped
    simp only [reserved, List.mem_cons, List.not_mem_nil, or_false]
    tauto
  · rintro rfl
    exact free (by decide)
  · rintro rfl
    exact free (by decide)
  · intro _ present
    exact unreserved _ present (by decide)
  · intro _ present
    exact unreserved _ present (by decide)

/-- What stands under a keyword, before and after. -/
theorem member_of_cleans {node out : Json Scalar} (cleans : Cleans str defs node out)
    (plain : node.member "$ref" = none) {key : String} (keyword : Keyword key) :
    match node.member key with
    | some value => ∃ cleaned, Cleans str defs value cleaned ∧ out.member key = some cleaned
    | none => out.member key = none := by
  cases node with
  | scalar value =>
      rw [cleans_scalar cleans]
      rfl
  | text value =>
      rw [cleans_text cleans]
      rfl
  | array items =>
      obtain ⟨result, same, -⟩ := cleans_array cleans
      rw [same]
      rfl
  | object members =>
      obtain ⟨fuel, result, same, done⟩ := cleans_object plain cleans
      have carried := get_cleanMembers (keyword.carried members) done
      rw [same]
      change match Json.get key members with
        | some value => ∃ cleaned, Cleans str defs value cleaned ∧ Json.get key result = some cleaned
        | none => Json.get key result = none
      cases found : Json.get key members with
      | none =>
          rw [found] at carried
          exact carried
      | some value =>
          rw [found] at carried
          obtain ⟨cleaned, done, set⟩ := carried
          exact ⟨cleaned, ⟨fuel, done⟩, set⟩

theorem isObject_of_resolves (bodies : ∀ name body, Json.get name defs = some body → body.IsObject)
    {node target : Json Scalar} (resolves : Resolves str defs node target)
    (object : node.IsObject) : target.IsObject := by
  induction resolves with
  | plain node free => exact object
  | follow node ref target refers resolves induction =>
      apply induction
      unfold dereference
      cases found : Json.get (refName str ref) defs with
      | none => trivial
      | some body => exact bodies _ body found

theorem isObject_of_cleans (bodies : ∀ name body, Json.get name defs = some body → body.IsObject)
    {node out : Json Scalar} (object : node.IsObject) (cleans : Cleans str defs node out) :
    out.IsObject := by
  obtain ⟨target, resolves, cleans⟩ := resolves_of_cleans cleans
  have still := isObject_of_resolves bodies resolves object
  have plain := plain_of_resolves resolves
  cases target with
  | object members =>
      obtain ⟨_, result, same, -⟩ := cleans_object plain cleans
      rw [same]
      trivial
  | scalar value => cases still
  | text value => cases still
  | array items => cases still

/-- The lists under a keyword match, item for item. -/
theorem listed_of_cleans (bodies : ∀ name body, Json.get name defs = some body → body.IsObject)
    {node out : Json Scalar} (cleans : Cleans str defs node out)
    (plain : node.member "$ref" = none) {key : String} (keyword : Keyword key) :
    List.Forall₂ (Cleans str defs) (listed node key) (listed out key) := by
  have under := member_of_cleans cleans plain keyword
  unfold listed
  cases found : node.member key with
  | none =>
      rw [found] at under
      rw [under]
      exact List.Forall₂.nil
  | some value =>
      rw [found] at under
      obtain ⟨cleaned, cleans_value, set⟩ := under
      rw [set]
      cases value with
      | scalar value =>
          rw [cleans_scalar cleans_value]
          exact List.Forall₂.nil
      | text value =>
          rw [cleans_text cleans_value]
          exact List.Forall₂.nil
      | array items =>
          obtain ⟨result, same, each⟩ := cleans_array cleans_value
          rw [same]
          exact each
      | object members =>
          have given : Json.IsObject (.object members) := trivial
          have object := isObject_of_cleans bodies given cleans_value
          cases cleaned with
          | object result => exact List.Forall₂.nil
          | scalar value => cases object
          | text value => cases object
          | array items => cases object

theorem required_of_cleans (bodies : ∀ name body, Json.get name defs = some body → body.IsObject)
    {node out : Json Scalar} (cleans : Cleans str defs node out)
    (plain : node.member "$ref" = none) : required out = required node := by
  have texts : ∀ value cleaned : Json Scalar, Cleans str defs value cleaned →
      cleaned.asText = value.asText := by
    intro value cleaned cleans
    cases value with
    | scalar value => rw [cleans_scalar cleans]
    | text value => rw [cleans_text cleans]
    | array items =>
        obtain ⟨result, same, -⟩ := cleans_array cleans
        rw [same]
        rfl
    | object members =>
        have given : Json.IsObject (.object members) := trivial
        have object := isObject_of_cleans bodies given cleans
        cases cleaned with
        | object result => rfl
        | scalar value => cases object
        | text value => cases object
        | array items => cases object
  have keyword : Keyword "required" := by
    decide
  have each := listed_of_cleans bodies cleans plain keyword
  unfold required
  generalize listed node "required" = before at each ⊢
  generalize listed out "required" = after at each ⊢
  induction each with
  | nil => rfl
  | cons head _ induction => rw [List.filterMap_cons, List.filterMap_cons, texts _ _ head, induction]

/-- The schemas under names of their own match, name for name. -/
theorem entries_of_cleans {node out : Json Scalar} (cleans : Cleans str defs node out)
    (plain : node.member "$ref" = none) (unreserved : Unreserved node) {key : String}
    (map : key ∈ mapKeywords) (name : String) :
    match Json.get name (entries node key) with
    | some value => ∃ cleaned, Cleans str defs value cleaned ∧
        Json.get name (entries out key) = some cleaned
    | none => Json.get name (entries out key) = none := by
  have keywords : ∀ other ∈ mapKeywords, Keyword other := by
    decide
  have under := member_of_cleans cleans plain (keywords key map)
  have names := unreserved key map
  unfold entries at names ⊢
  cases found : node.member key with
  | none =>
      rw [found] at under
      rw [under]
      rfl
  | some value =>
      rw [found] at under names
      obtain ⟨cleaned, cleans_value, set⟩ := under
      rw [set]
      cases value with
      | scalar value =>
          rw [cleans_scalar cleans_value]
          rfl
      | text value =>
          rw [cleans_text cleans_value]
          rfl
      | array items =>
          obtain ⟨result, same, each⟩ := cleans_array cleans_value
          rw [same]
          rfl
      | object members =>
          have free : Json.get "$ref" members = none := by
            rw [Json.get_eq_none_iff]
            intro present
            exact names "$ref" present (by decide)
          obtain ⟨fuel, result, same, done⟩ := cleans_object free cleans_value
          rw [same]
          dsimp only
          by_cases taken : name ∈ reserved
          · have absent : Json.get name members = none := by
              rw [Json.get_eq_none_iff]
              intro present
              exact names name present taken
            rw [absent]
            have gone := reserved_absent cleans_value taken
            rw [same] at gone
            exact gone
          · have carried := get_cleanMembers (carried_of_unreserved names taken) done
            cases there : Json.get name members with
            | none =>
                rw [there] at carried
                exact carried
            | some value =>
                rw [there] at carried
                obtain ⟨late, done, set⟩ := carried
                exact ⟨late, ⟨fuel, done⟩, set⟩

/-- Each step from a node is a step from what `clean` makes of it. -/
theorem child_of_cleans (bodies : ∀ name body, Json.get name defs = some body → body.IsObject)
    {node out : Json Scalar} (cleans : Cleans str defs node out)
    (plain : node.member "$ref" = none) (unreserved : Unreserved node) (step : SchemaStep) :
    match child node step with
    | some next => ∃ late, Cleans str defs next late ∧ child out step = some late
    | none => child out step = none := by
  cases step with
  | entry keyword name =>
      by_cases map : keyword ∈ mapKeywords
      · have same : ∀ other : Json Scalar,
            child other (.entry keyword name) = Json.get name (entries other keyword) :=
          fun other => if_pos map
        rw [same, same]
        exact entries_of_cleans cleans plain unreserved map name
      · have nowhere : ∀ other : Json Scalar, child other (.entry keyword name) = none :=
          fun other => if_neg map
        rw [nowhere, nowhere]
  | under keyword =>
      by_cases single : keyword ∈ schemaKeywords
      · have same : ∀ other : Json Scalar, child other (.under keyword) = other.member keyword :=
          fun other => if_pos single
        have keywords : ∀ other ∈ schemaKeywords, Keyword other := by
          decide
        rw [same, same]
        exact member_of_cleans cleans plain (keywords keyword single)
      · have nowhere : ∀ other : Json Scalar, child other (.under keyword) = none :=
          fun other => if_neg single
        rw [nowhere, nowhere]
  | item keyword index =>
      by_cases list : keyword ∈ listKeywords
      · have same : ∀ other : Json Scalar,
            child other (.item keyword index) = (listed other keyword)[index]? :=
          fun other => if_pos list
        have keywords : ∀ other ∈ listKeywords, Keyword other := by
          decide
        have each := listed_of_cleans bodies cleans plain (keywords keyword list)
        rw [same, same]
        by_cases inside : index < (listed node keyword).length
        · have there : index < (listed out keyword).length := each.length_eq ▸ inside
          rw [List.getElem?_eq_getElem inside, List.getElem?_eq_getElem there]
          exact ⟨_, each.get inside there, rfl⟩
        · have nowhere : ¬ index < (listed out keyword).length := each.length_eq ▸ inside
          rw [List.getElem?_eq_none (Nat.le_of_not_lt inside),
            List.getElem?_eq_none (Nat.le_of_not_lt nowhere)]
      · have nowhere : ∀ other : Json Scalar, child other (.item keyword index) = none :=
          fun other => if_neg list
        rw [nowhere, nowhere]

theorem sameProperties_of_cleans
    (bodies : ∀ name body, Json.get name defs = some body → body.IsObject)
    {node out : Json Scalar} (cleans : Cleans str defs node out)
    (plain : node.member "$ref" = none) (unreserved : Unreserved node) :
    SameProperties node out := by
  refine ⟨fun name => ?_, required_of_cleans bodies cleans plain⟩
  have map : "properties" ∈ mapKeywords := by
    decide
  have entry := entries_of_cleans cleans plain unreserved map name
  unfold propertyNames
  rw [← Json.get_isSome_iff, ← Json.get_isSome_iff]
  cases found : Json.get name (entries node "properties") with
  | none =>
      rw [found] at entry
      rw [entry]
  | some value =>
      rw [found] at entry
      obtain ⟨cleaned, -, set⟩ := entry
      rw [set]
      exact iff_of_true rfl rfl

theorem plain_of_reaches {root node : Json Scalar} {path : List SchemaStep}
    (reaches : Reaches str defs root path node) : node.member "$ref" = none := by
  cases reaches with
  | root node resolves => exact plain_of_resolves resolves
  | step path node next target step reaches inside resolves => exact plain_of_resolves resolves

/-- Down to a node of the schema there is a path in the result, as long as no name on
the way is reserved. -/
theorem walk_of_reaches (bodies : ∀ name body, Json.get name defs = some body → body.IsObject)
    {root out : Json Scalar} {path : List SchemaStep} {node next target : Json Scalar} {step : SchemaStep}
    (reaches : Reaches str defs root path node) (inside : child node step = some next)
    (resolves : Resolves str defs next target) (unreserved : Unreserved node)
    (before : ∃ late, walk out path = some late ∧ Cleans str defs node late) :
    ∃ late, walk out (path ++ [step]) = some late ∧ Cleans str defs target late := by
  obtain ⟨late, there, cleans_node⟩ := before
  have below := child_of_cleans bodies cleans_node (plain_of_reaches reaches) unreserved step
  rw [inside] at below
  obtain ⟨further, cleans_next, set⟩ := below
  refine ⟨further, ?_, cleans_of_resolves resolves cleans_next⟩
  rw [walk_snoc, there]
  exact set

theorem reaches_of_walk (bodies : ∀ name body, Json.get name defs = some body → body.IsObject)
    {root out : Json Scalar} (cleans : Cleans str defs root out)
    (unreserved : ∀ path node, Reaches str defs root path node → Unreserved node)
    (path : List SchemaStep) : ∀ late, walk out path = some late →
      ∃ node, Reaches str defs root path node ∧ Cleans str defs node late := by
  induction path using List.reverseRecOn with
  | nil =>
      intro late there
      obtain rfl := Option.some.inj there
      obtain ⟨target, resolves, cleans_target⟩ := resolves_of_cleans cleans
      exact ⟨target, .root target resolves, cleans_target⟩
  | append_singleton path step induction =>
      intro late there
      rw [walk_snoc] at there
      obtain ⟨middle, before, last⟩ := Option.bind_eq_some_iff.1 there
      obtain ⟨node, reaches, cleans_node⟩ := induction middle before
      have below := child_of_cleans bodies cleans_node (plain_of_reaches reaches)
        (unreserved path node reaches) step
      cases inside : child node step with
      | none =>
          rw [inside, last] at below
          cases below
      | some next =>
          rw [inside, last] at below
          obtain ⟨further, cleans_next, same⟩ := below
          obtain rfl := Option.some.inj same
          obtain ⟨target, resolves, cleans_target⟩ := resolves_of_cleans cleans_next
          exact ⟨target, .step path node next target step reaches inside resolves, cleans_target⟩

end Correspondence

section Preservation

variable {raw : Members Scalar}

/-- The schema that goes to the API, once `clean` has returned. -/
def Returns (str : Json Scalar → String) (raw cleaned : Members Scalar) : Prop :=
  ∃ fuel, ∀ more, fuel ≤ more → geminiSchema str more raw = some (.ok cleaned)

theorem returns_iff {cleaned : Members Scalar} : Returns str raw cleaned ↔
    Cleans str (definitions raw) (.object (withoutDefinitions raw)) (.object cleaned) := by
  constructor
  · rintro ⟨fuel, returned⟩
    obtain ⟨out, done, same⟩ := Option.map_eq_some_iff.1 (returned fuel (Nat.le_refl fuel))
    cases out with
    | object members =>
        cases same
        exact ⟨fuel, done⟩
    | scalar value => cases same
    | text value => cases same
    | array items => cases same
  · rintro ⟨fuel, done⟩
    refine ⟨fuel, fun more enough => ?_⟩
    unfold geminiSchema
    rw [clean_mono done enough]
    rfl

/-- `clean` returns, whatever the names. -/
theorem exists_returns (documented : Documented str raw) (acyclic : Acyclic str (definitions raw)) :
    ∃ cleaned, Returns str raw cleaned := by
  obtain ⟨fuel, out, done⟩ := clean_halts acyclic (.object (withoutDefinitions raw))
  have given : Json.IsObject (.object (withoutDefinitions raw)) := trivial
  have object := isObject_of_cleans documented.bodies given ⟨fuel, done⟩
  cases out with
  | object cleaned => exact ⟨cleaned, returns_iff.2 ⟨fuel, done⟩⟩
  | scalar value => cases object
  | text value => cases object
  | array items => cases object

theorem preserves_of_unreserved (documented : Documented str raw) {cleaned : Members Scalar}
    (returns : Returns str raw cleaned)
    (unreserved : ∀ path node,
      Reaches str (definitions raw) (.object (withoutDefinitions raw)) path node →
        Unreserved node) : Preserves str raw cleaned := by
  have cleans := returns_iff.1 returns
  have reached : ∀ path node,
      Reaches str (definitions raw) (.object (withoutDefinitions raw)) path node →
        ∃ late, walk (.object cleaned) path = some late ∧
          Cleans str (definitions raw) node late := by
    intro path node reaches
    induction reaches with
    | root node resolves => exact ⟨_, rfl, cleans_of_resolves resolves cleans⟩
    | step path node next target step reaches inside resolves induction =>
        exact walk_of_reaches documented.bodies reaches inside resolves
          (unreserved path node reaches) induction
  refine ⟨?_, ?_, ?_⟩
  · intro path node reaches
    obtain ⟨late, there, cleans_node⟩ := reached path node reaches
    exact ⟨late, there, sameProperties_of_cleans documented.bodies cleans_node
      (plain_of_reaches reaches) (unreserved path node reaches)⟩
  · intro path late there
    obtain ⟨node, reaches, cleans_node⟩ :=
      reaches_of_walk documented.bodies cleans unreserved path late there
    exact ⟨node, reaches, sameProperties_of_cleans documented.bodies cleans_node
      (plain_of_reaches reaches) (unreserved path node reaches)⟩
  · intro path late there
    obtain ⟨node, reaches, cleans_node⟩ :=
      reaches_of_walk documented.bodies cleans unreserved path late there
    have keyword : Keyword "$defs" := by
      decide
    have defs := member_of_cleans cleans_node (plain_of_reaches reaches) keyword
    rw [documented.rooted path node reaches] at defs
    exact ⟨reserved_absent cleans_node (by decide), defs⟩

theorem unreserved_of_preserves (documented : Documented str raw)
    (acyclic : Acyclic str (definitions raw)) {cleaned : Members Scalar}
    (returns : Returns str raw cleaned) (preserves : Preserves str raw cleaned)
    {path : List SchemaStep} {node : Json Scalar}
    (reaches : Reaches str (definitions raw) (.object (withoutDefinitions raw)) path node) :
    Unreserved node := by
  have cleans := returns_iff.1 returns
  -- a reserved name would be a step that the result does not have
  have here : ∀ path node,
      Reaches str (definitions raw) (.object (withoutDefinitions raw)) path node →
        (∃ late, walk (.object cleaned) path = some late ∧
          Cleans str (definitions raw) node late) → Unreserved node := by
    rintro path node reaches ⟨late, there, cleans_node⟩ keyword map name present taken
    rw [← Json.get_isSome_iff] at present
    obtain ⟨value, found⟩ := Option.isSome_iff_exists.1 present
    have inside : child node (.entry keyword name) = some value := (if_pos map).trans found
    obtain ⟨fuel, out, done⟩ := clean_halts acyclic value
    obtain ⟨target, resolves, -⟩ := resolves_of_cleans ⟨fuel, done⟩
    obtain ⟨further, kept, -⟩ := preserves.kept _ target
      (.step path node value target _ reaches inside resolves)
    rw [walk_snoc, there] at kept
    have set : Json.get name (entries late keyword) = some further := (if_pos map).symm.trans kept
    have keywords : ∀ other ∈ mapKeywords, Keyword other := by
      decide
    have under := member_of_cleans cleans_node (plain_of_reaches reaches) (keywords keyword map)
    unfold entries at set
    cases stood : node.member keyword with
    | none =>
        rw [stood] at under
        rw [under] at set
        cases set
    | some old =>
        rw [stood] at under
        obtain ⟨new, cleans_old, now⟩ := under
        rw [now] at set
        cases new with
        | object members =>
            have absent := reserved_absent cleans_old taken
            rw [show Json.get name members = none from absent] at set
            cases set
        | scalar value => cases set
        | text value => cases set
        | array items => cases set
  have both : Unreserved node ∧ ∃ late, walk (.object cleaned) path = some late ∧
      Cleans str (definitions raw) node late := by
    induction reaches with
    | root node resolves =>
        have first : ∃ late, walk (.object cleaned) [] = some late ∧
            Cleans str (definitions raw) node late := ⟨_, rfl, cleans_of_resolves resolves cleans⟩
        exact ⟨here [] node (.root node resolves) first, first⟩
    | step path node next target step reaches inside resolves induction =>
        have last := walk_of_reaches documented.bodies reaches inside resolves induction.1
          induction.2
        exact ⟨here _ target (.step path node next target step reaches inside resolves) last, last⟩
  exact both.1

/-- A schema without cycles is cleaned in finitely many steps, and keeps the data model
just where no property, at any node, is named like one of the keywords that go. -/
theorem gemini_schema_preserves_iff (documented : Documented str raw)
    (acyclic : Acyclic str (definitions raw)) :
    (∃ cleaned, Returns str raw cleaned ∧ Preserves str raw cleaned) ↔
      ∀ path node,
        Reaches str (definitions raw) (.object (withoutDefinitions raw)) path node →
          Unreserved node := by
  constructor
  · rintro ⟨cleaned, returns, preserves⟩ path node reaches
    exact unreserved_of_preserves documented acyclic returns preserves reaches
  · intro unreserved
    obtain ⟨cleaned, returns⟩ := exists_returns documented acyclic
    exact ⟨cleaned, returns, preserves_of_unreserved documented returns unreserved⟩

def sampleText : Json Nat := .object [("type", .text "string")]

/-- A model with one property, of a model of its own. -/
def sampleSchema (name : String) : Members Nat :=
  [("$defs", .object [("Label", sampleText)]),
    ("properties", .object [(name, .object [("$ref", .text "#/$defs/Label")])]),
    ("required", .array [.text name])]

/-- In the sample there is no value that is written in another way than as itself. -/
def sampleStr : Json Nat → String := fun _ => ""

theorem sample_resolves {name : String} {target : Json Nat}
    (resolves : Resolves sampleStr (definitions (sampleSchema name))
      (.object [("$ref", .text "#/$defs/Label")]) target) : target = sampleText := by
  have label : dereference sampleStr (definitions (sampleSchema name)) (.text "#/$defs/Label") =
      sampleText := by
    have written : refName sampleStr (.text "#/$defs/Label") = "Label" := by
      decide
    unfold dereference
    rw [written]
    rfl
  cases resolves with
  | plain node free => cases free
  | follow node ref target refers resolves =>
      obtain rfl := Option.some.inj refers
      rw [label] at resolves
      cases resolves with
      | plain node free => rfl
      | follow node ref target refers resolves => cases refers

/-- Where a step can lead from a node that has no list and no schema under a keyword. -/
theorem child_of_bare {node next : Json Scalar} {step : SchemaStep}
    (bare : ∀ keyword ∈ schemaKeywords ++ listKeywords, node.member keyword = none)
    (inside : child node step = some next) :
    ∃ keyword ∈ mapKeywords, ∃ name, Json.get name (entries node keyword) = some next := by
  unfold child at inside
  cases step with
  | entry keyword name =>
      obtain ⟨map, found⟩ := Option.ite_none_right_eq_some.1 inside
      exact ⟨keyword, map, name, found⟩
  | under keyword =>
      obtain ⟨single, found⟩ := Option.ite_none_right_eq_some.1 inside
      rw [bare keyword (List.mem_append_left _ single)] at found
      cases found
  | item keyword index =>
      obtain ⟨list, found⟩ := Option.ite_none_right_eq_some.1 inside
      unfold listed at found
      rw [bare keyword (List.mem_append_right _ list)] at found
      cases found

theorem sample_bare (name : String) : ∀ keyword ∈ schemaKeywords ++ listKeywords,
    Json.member (.object (withoutDefinitions (sampleSchema name))) keyword = none ∧
      sampleText.member keyword = none := by
  simp [schemaKeywords, listKeywords, withoutDefinitions, sampleSchema, sampleText, Json.member,
    Json.get]

theorem sample_child {name : String} {step : SchemaStep} {next : Json Nat}
    (inside : child (.object (withoutDefinitions (sampleSchema name))) step = some next) :
    next = .object [("$ref", .text "#/$defs/Label")] := by
  obtain ⟨keyword, map, other, found⟩ :=
    child_of_bare (fun keyword bare => (sample_bare name keyword bare).1) inside
  simp only [mapKeywords, List.mem_cons, List.not_mem_nil, or_false] at map
  rcases map with rfl | rfl
  · have only := Json.mem_of_get found
    exact (Prod.mk.inj (List.mem_singleton.1 only)).2
  · cases found

theorem sample_leaf {step : SchemaStep} : child sampleText step = none := by
  rw [← Option.not_isSome_iff_eq_none]
  intro some_next
  obtain ⟨next, inside⟩ := Option.isSome_iff_exists.1 some_next
  obtain ⟨keyword, map, other, found⟩ :=
    child_of_bare (fun keyword bare => (sample_bare "label" keyword bare).2) inside
  simp only [mapKeywords, List.mem_cons, List.not_mem_nil, or_false] at map
  rcases map with rfl | rfl
  · cases found
  · cases found

theorem sample_reaches {name : String} {path : List SchemaStep} {node : Json Nat}
    (reaches : Reaches sampleStr (definitions (sampleSchema name))
      (.object (withoutDefinitions (sampleSchema name))) path node) :
    node = .object (withoutDefinitions (sampleSchema name)) ∨ node = sampleText := by
  induction reaches with
  | root node resolves =>
      left
      cases resolves with
      | plain node free => rfl
      | follow node ref target refers resolves => cases refers
  | step path node next target step reaches inside resolves induction =>
      right
      rcases induction with root | leaf
      · rw [root] at inside
        rw [sample_child inside] at resolves
        exact sample_resolves resolves
      · exfalso
        rw [leaf, sample_leaf] at inside
        cases inside

theorem sample_documented (name : String) : Documented sampleStr (sampleSchema name) := by
  constructor
  · intro other body defined
    have only : (other, body) ∈ definitions (sampleSchema name) := Json.mem_of_get defined
    obtain ⟨_, rfl⟩ := Prod.mk.inj (List.mem_singleton.1 only)
    trivial
  · intro path node reaches
    rcases sample_reaches reaches with root | leaf
    · rw [root]
      rfl
    · rw [leaf]
      rfl

theorem sample_acyclic (name : String) : Acyclic sampleStr (definitions (sampleSchema name)) := by
  have unmentioned : ∀ other late, ¬ Refers sampleStr (definitions (sampleSchema name)) other late := by
    rintro other late ⟨body, defined, mentions⟩
    have only : (late, body) ∈ definitions (sampleSchema name) := Json.mem_of_get defined
    obtain ⟨_, rfl⟩ := Prod.mk.inj (List.mem_singleton.1 only)
    cases mentions with
    | here members ref refers => cases refers
    | member members key value name inside mentions =>
        obtain ⟨_, rfl⟩ := Prod.mk.inj (List.mem_singleton.1 inside)
        cases mentions
  intro other cycle
  obtain ⟨middle, -, last⟩ := Relation.TransGen.tail'_iff.1 cycle
  exact unmentioned middle other last

/-- A property `label` is kept. -/
theorem label_preserved : ∃ cleaned, Returns sampleStr (sampleSchema "label") cleaned ∧
    Preserves sampleStr (sampleSchema "label") cleaned := by
  refine (gemini_schema_preserves_iff (sample_documented "label") (sample_acyclic "label")).2 ?_
  intro path node reaches keyword map name present
  simp only [mapKeywords, List.mem_cons, List.not_mem_nil, or_false] at map
  rcases sample_reaches reaches with root | leaf
  · rw [root] at present
    rcases map with rfl | rfl
    · rw [List.mem_singleton.1 present]
      decide
    · cases present
  · rw [leaf] at present
    rcases map with rfl | rfl
    · cases present
    · cases present

/-- A property `title` is not. -/
theorem title_not_preserved : Documented sampleStr (sampleSchema "title") ∧
    Acyclic sampleStr (definitions (sampleSchema "title")) ∧
    ¬ ∃ cleaned, Returns sampleStr (sampleSchema "title") cleaned ∧
      Preserves sampleStr (sampleSchema "title") cleaned := by
  refine ⟨sample_documented "title", sample_acyclic "title", ?_⟩
  rintro ⟨cleaned, returns, preserves⟩
  have unreserved := unreserved_of_preserves (sample_documented "title") (sample_acyclic "title")
    returns preserves (.root _ (.plain (.object (withoutDefinitions (sampleSchema "title"))) rfl))
  have taken : "title" ∈ reserved := by
    decide
  exact unreserved "properties" List.mem_cons_self "title" List.mem_cons_self taken

end Preservation

end OpenReachout
