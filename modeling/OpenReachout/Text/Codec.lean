import OpenReachout.Text.Json
import Mathlib.Data.List.Nodup

/-!
# Codecs of documents

A codec writes the values of a type as documents and reads documents back, or says what is
wrong with them, and where. It carries what makes it right: that what is written is read
back, that nothing is accepted but what its shape declares, and that every issue is about
some place of the document. Codecs of records are put together from rows of fields.
-/

namespace Documents

open Text

set_option autoImplicit false

inductive Scalar where
  | null
  | flag (value : Bool)
  | number (value : Int)
  | decimal (value : Rat)
  deriving DecidableEq

abbrev Document := Json Scalar

section Issues

inductive Place where
  | key (name : String)
  | index (position : Nat)
  | ofKey
  deriving DecidableEq

inductive Fault where
  | missing | extra | kind | short | pattern | bound | choice
  | value (text : List Char)
  deriving DecidableEq

structure Issue where
  path : List Place
  fault : Fault
  deriving DecidableEq

def Issue.under (place : Place) (issue : Issue) : Issue :=
  { issue with path := place :: issue.path }

/-- What is at a place, where the key of a member stands for its value. -/
def reach : List Place → Document → Option Document
  | [], doc => some doc
  | .key name :: path, .object members => (Json.get name members).bind (reach path)
  | .index position :: path, .array items => items[position]?.bind (reach path)
  | .ofKey :: path, doc => reach path doc
  | _ :: _, _ => none

/-- The issue is about a value of the document, or about a member that an object of it
lacks. -/
def Issue.About (issue : Issue) (doc : Document) : Prop :=
  (reach issue.path doc).isSome = true ∨ issue.fault = .missing ∧ ∃ early name members,
    issue.path = early ++ [.key name] ∧ reach early doc = some (.object members) ∧
      Json.get name members = none

theorem about_here (fault : Fault) (doc : Document) : Issue.About ⟨[], fault⟩ doc := .inl rfl

theorem about_missing {name : String} {members : List (String × Document)}
    (absent : Json.get name members = none) :
    Issue.About ⟨[.key name], .missing⟩ (.object members) :=
  .inr ⟨rfl, [], name, members, rfl, rfl, absent⟩

/-- An issue about what is found one step into a document. -/
theorem about_under {issue : Issue} {place : Place} {outer inner : Document}
    (step : ∀ path, reach (place :: path) outer = reach path inner) (about : issue.About inner) :
    (issue.under place).About outer := by
  rcases about with there | ⟨lacking, early, name, members, path, found, absent⟩
  · refine .inl ?_
    change (reach (place :: issue.path) outer).isSome = true
    rw [step]
    exact there
  · refine .inr ⟨lacking, place :: early, name, members, ?_, ?_, absent⟩
    · change place :: issue.path = place :: early ++ [.key name]
      rw [path, List.cons_append]
    · rw [step]
      exact found

theorem reach_member {name : String} {members : List (String × Document)} {doc : Document}
    (found : Json.get name members = some doc) (path : List Place) :
    reach (.key name :: path) (.object members) = reach path doc := by
  simp only [reach, found, Option.bind_some]

theorem reach_item {position : Nat} {items : List Document} {doc : Document}
    (found : items[position]? = some doc) (path : List Place) :
    reach (.index position :: path) (.array items) = reach path doc := by
  simp only [reach, found, Option.bind_some]

end Issues

section Readings

variable {Value Other : Type} {concerns : Issue → Prop}

abbrev Checked (Value : Type) := Except (List Issue) Value

/-- Where the reading fails it says why, and each issue is of the given kind. -/
def Faults (concerns : Issue → Prop) (reading : Checked Value) : Prop :=
  ∀ issues, reading = .error issues → issues ≠ [] ∧ ∀ issue ∈ issues, concerns issue

theorem faults_ok (value : Value) : Faults concerns (.ok value : Checked Value) :=
  fun _ failed => by cases failed

theorem faults_one {issue : Issue} (holds : concerns issue) :
    Faults concerns (.error [issue] : Checked Value) := by
  intro issues failed
  cases failed
  refine ⟨List.cons_ne_nil _ _, fun other member => ?_⟩
  rw [List.mem_singleton.1 member]
  exact holds

theorem Faults.map {reading : Checked Value} (faults : Faults concerns reading)
    (convert : Value → Other) : Faults concerns (convert <$> reading) := by
  cases reading with
  | ok value => exact faults_ok (convert value)
  | error issues =>
      intro others failed
      cases failed
      exact faults issues rfl

/-- What is wrong one step into a document. -/
def under (place : Place) : Checked Value → Checked Value
  | .ok value => .ok value
  | .error issues => .error (issues.map (Issue.under place))

theorem faults_under {inner : Issue → Prop} {place : Place} {reading : Checked Value}
    (faults : Faults inner reading)
    (outward : ∀ issue, inner issue → concerns (issue.under place)) :
    Faults concerns (under place reading) := by
  cases reading with
  | ok value => exact faults_ok value
  | error issues =>
      intro others failed
      cases failed
      obtain ⟨some_, each⟩ := faults issues rfl
      refine ⟨fun empty => some_ (List.map_eq_nil_iff.1 empty), fun issue member => ?_⟩
      obtain ⟨inside, among, rfl⟩ := List.mem_map.1 member
      exact outward inside (each inside among)

/-- Two readings, with the issues of both. -/
def both : Checked Value → Checked Other → Checked (Value × Other)
  | .ok value, .ok other => .ok (value, other)
  | .ok _, .error issues => .error issues
  | .error issues, .ok _ => .error issues
  | .error issues, .error others => .error (issues ++ others)

theorem both_ok {first : Checked Value} {second : Checked Other} {value : Value × Other} :
    both first second = .ok value ↔ first = .ok value.1 ∧ second = .ok value.2 := by
  cases first <;> cases second <;> simp [both, Prod.ext_iff]

theorem faults_both {first : Checked Value} {second : Checked Other}
    (left : Faults concerns first) (right : Faults concerns second) :
    Faults concerns (both first second) := by
  intro issues failed
  cases first with
  | ok value =>
      cases second with
      | ok other => cases failed
      | error late =>
          cases failed
          exact right _ rfl
  | error early =>
      have before := left early rfl
      cases second with
      | ok other =>
          cases failed
          exact before
      | error late =>
          cases failed
          refine ⟨fun empty => before.1 (List.append_eq_nil_iff.1 empty).1, ?_⟩
          intro issue member
          rcases List.mem_append.1 member with inside | outside
          · exact before.2 issue inside
          · exact (right late rfl).2 issue outside

end Readings

section Shapes

/-- What a schema declares. -/
inductive Shape where
  | any
  | list (item : Shape)
  | table (value : Shape)
  | record (fields : List (String × Shape))

/-- The document has nothing that its shape does not declare. -/
inductive Fits : Shape → Document → Prop where
  | any (doc : Document) : Fits .any doc
  | list {item : Shape} {items : List Document} (each : ∀ doc ∈ items, Fits item doc) :
      Fits (.list item) (.array items)
  | table {value : Shape} {members : List (String × Document)}
      (each : ∀ name doc, Json.get name members = some doc → Fits value doc) :
      Fits (.table value) (.object members)
  | record {fields : List (String × Shape)} {members : List (String × Document)}
      (declared : ∀ member ∈ members, member.1 ∈ fields.map Prod.fst)
      (each : ∀ name shape doc, (name, shape) ∈ fields → Json.get name members = some doc →
        doc ≠ .scalar .null → Fits shape doc) :
      Fits (.record fields) (.object members)

end Shapes

section Codecs

structure Codec (Value : Type) where
  shape : Shape
  encode : Value → Document
  decode : Document → Checked Value
  round : ∀ value, decode (encode value) = .ok value
  fits : ∀ doc value, decode doc = .ok value → Fits shape doc
  located : ∀ doc, Faults (Issue.About · doc) (decode doc)

namespace Codec

variable {Value Other : Type}

/-- A value that is read at once. -/
def read (read : Document → Option Value) (fault : Fault) (write : Value → Document)
    (back : ∀ value, read (write value) = some value) : Codec Value where
  shape := .any
  encode := write
  decode doc := match read doc with
    | some value => .ok value
    | none => .error [⟨[], fault⟩]
  round value := by rw [back]
  fits doc value _ := .any doc
  located doc := by
    cases read doc with
    | some value => exact faults_ok value
    | none => exact faults_one (about_here fault doc)

/-- Any value at all. -/
def any : Codec Document := read some .kind id fun _ => rfl

def text : Codec String := read Json.asText .kind .text fun _ => rfl

/-- One of some texts. -/
def choice (named : Value → String) (choices : List Value)
    (back : ∀ value, (choices.find? fun other => named other = named value) = some value) :
    Codec Value :=
  read (fun doc => (Json.asText doc).bind fun name => choices.find? fun value => named value = name)
    .choice (fun value => .text (named value)) back

/-- A further check, with what it says where it fails. -/
def check (codec : Codec Value) (holds : Value → Prop) [DecidablePred holds]
    (fault : Value → Fault) : Codec {value // holds value} where
  shape := codec.shape
  encode value := codec.encode value.1
  decode doc := match codec.decode doc with
    | .ok value => if fine : holds value then .ok ⟨value, fine⟩ else .error [⟨[], fault value⟩]
    | .error issues => .error issues
  round value := by
    rw [codec.round]
    exact dif_pos value.2
  fits doc value decoded := by
    cases first : codec.decode doc with
    | ok inner => exact codec.fits doc inner first
    | error issues =>
        rw [first] at decoded
        cases decoded
  located doc := by
    cases first : codec.decode doc with
    | ok inner =>
        by_cases fine : holds inner
        · simp only [dif_pos fine]
          exact faults_ok _
        · simp only [dif_neg fine]
          exact faults_one (about_here (fault inner) doc)
    | error issues =>
        intro others failed
        cases failed
        exact codec.located doc issues first

/-- The same documents, of another type. -/
def convert (codec : Codec Value) (made : Value → Other) (parts : Other → Value)
    (same : ∀ other, made (parts other) = other) : Codec Other where
  shape := codec.shape
  encode other := codec.encode (parts other)
  decode doc := made <$> codec.decode doc
  round other := by
    rw [codec.round]
    exact congrArg Except.ok (same other)
  fits doc other decoded := by
    cases first : codec.decode doc with
    | ok inner => exact codec.fits doc inner first
    | error issues =>
        rw [first] at decoded
        cases decoded
  located doc := (codec.located doc).map made

theorem check_ok {codec : Codec Value} {holds : Value → Prop} [DecidablePred holds]
    {fault : Value → Fault} {doc : Document} {value : {value // holds value}} :
    (codec.check holds fault).decode doc = .ok value ↔ codec.decode doc = .ok value.1 := by
  change (match codec.decode doc with
    | .ok value => if fine : holds value then .ok ⟨value, fine⟩ else .error [⟨[], fault value⟩]
    | .error issues => .error issues) = Except.ok value ↔ codec.decode doc = .ok value.1
  cases codec.decode doc with
  | error issues => simp
  | ok inner =>
      by_cases fine : holds inner
      · simp [dif_pos fine, Subtype.ext_iff]
      · simp only [dif_neg fine, reduceCtorEq, Except.ok.injEq, false_iff]
        exact fun same => fine (same ▸ value.2)

theorem convert_ok {codec : Codec Value} {made : Value → Other} {parts : Other → Value}
    {same : ∀ other, made (parts other) = other} {doc : Document} {other : Other}
    (decoded : (codec.convert made parts same).decode doc = .ok other) :
    ∃ value, codec.decode doc = .ok value ∧ made value = other := by
  cases first : codec.decode doc with
  | error issues =>
      change made <$> codec.decode doc = _ at decoded
      rw [first] at decoded
      cases decoded
  | ok value =>
      change made <$> codec.decode doc = _ at decoded
      rw [first] at decoded
      exact ⟨value, rfl, Except.ok.inj decoded⟩

end Codec

end Codecs

section Lists

variable {Value : Type} (codec : Codec Value)

/-- The items from a position on, with the issues of all of them. -/
def readItems : Nat → List Document → Checked (List Value)
  | _, [] => .ok []
  | position, doc :: docs =>
      (fun pair => pair.1 :: pair.2) <$>
        both (under (.index position) (codec.decode doc)) (readItems (position + 1) docs)

theorem under_ok {place : Place} {reading : Checked Value} {value : Value} :
    under place reading = .ok value ↔ reading = .ok value := by
  cases reading <;> simp [under]

theorem readItems_cons {position : Nat} {doc : Document} {docs : List Document}
    {values : List Value} : readItems codec position (doc :: docs) = .ok values ↔
      ∃ value others, values = value :: others ∧ codec.decode doc = .ok value ∧
        readItems codec (position + 1) docs = .ok others := by
  rw [readItems]
  cases paired : both (under (.index position) (codec.decode doc))
      (readItems codec (position + 1) docs) with
  | ok pair =>
      obtain ⟨first, rest⟩ := both_ok.1 paired
      rw [under_ok] at first
      constructor
      · intro made
        cases made
        exact ⟨pair.1, pair.2, rfl, first, rest⟩
      · rintro ⟨value, others, rfl, decoded, further⟩
        rw [first] at decoded
        rw [rest] at further
        cases decoded
        cases further
        rfl
  | error issues =>
      constructor
      · intro made
        cases made
      · rintro ⟨value, others, rfl, decoded, further⟩
        rw [decoded, further] at paired
        cases paired

theorem readItems_encode (position : Nat) (values : List Value) :
    readItems codec position (values.map codec.encode) = .ok values := by
  induction values generalizing position with
  | nil => rfl
  | cons value values induction =>
      rw [List.map_cons, readItems_cons]
      exact ⟨value, values, rfl, codec.round value, induction (position + 1)⟩

theorem fits_items {position : Nat} {docs : List Document} {values : List Value}
    (decoded : readItems codec position docs = .ok values) : ∀ doc ∈ docs, Fits codec.shape doc := by
  induction docs generalizing position values with
  | nil => exact fun _ member => absurd member List.not_mem_nil
  | cons doc docs induction =>
      obtain ⟨value, others, rfl, first, rest⟩ := (readItems_cons codec).1 decoded
      intro other member
      rcases List.mem_cons.1 member with rfl | later
      · exact codec.fits other value first
      · exact induction rest other later

theorem located_items (early docs : List Document) :
    Faults (Issue.About · (.array (early ++ docs))) (readItems codec early.length docs) := by
  induction docs generalizing early with
  | nil => exact faults_ok []
  | cons doc docs induction =>
      apply Faults.map
      apply faults_both
      · apply faults_under (codec.located doc)
        intro issue about
        exact about_under (reach_item (by simp)) about
      · have later := induction (early ++ [doc])
        rw [List.append_assoc, List.length_append] at later
        exact later

def Codec.list : Codec (List Value) where
  shape := .list codec.shape
  encode values := .array (values.map codec.encode)
  decode
    | .array docs => readItems codec 0 docs
    | _ => .error [⟨[], .kind⟩]
  round values := readItems_encode codec 0 values
  fits doc values decoded := by
    cases doc with
    | array docs => exact .list (fits_items codec decoded)
    | scalar value => cases decoded
    | text value => cases decoded
    | object members => cases decoded
  located doc := by
    cases doc with
    | array docs => exact located_items codec [] docs
    | scalar value => exact faults_one (about_here _ _)
    | text value => exact faults_one (about_here _ _)
    | object members => exact faults_one (about_here _ _)

end Lists

section Members

variable {Key Value : Type}

/-- How keys are written, and read. -/
structure Keys (Key : Type) where
  write : Key → String
  read : String → Option Key
  back : ∀ key, read (write key) = some key

def Keys.texts : Keys String := ⟨id, some, fun _ => rfl⟩

variable (keys : Keys Key) (codec : Codec Value)

def Keys.decode (name : String) : Checked Key :=
  match keys.read name with
  | some key => .ok key
  | none => .error [⟨[.ofKey], .kind⟩]

/-- The entries of an object, of which only the last of a name counts. -/
def readMembers : List (String × Document) → Checked (List (Key × Value))
  | [] => .ok []
  | (name, doc) :: rest =>
      if (Json.get name rest).isSome then readMembers rest
      else (fun pair => pair.1 :: pair.2) <$>
        both (under (.key name) (both (keys.decode name) (codec.decode doc))) (readMembers rest)

theorem readMembers_ok {members : List (String × Document)} {entries : List (Key × Value)}
    (decoded : readMembers keys codec members = .ok entries) (name : String) (doc : Document)
    (found : Json.get name members = some doc) : ∃ value, codec.decode doc = .ok value := by
  induction members generalizing entries with
  | nil => cases found
  | cons member rest induction =>
      obtain ⟨first, inner⟩ := member
      rw [Json.get_cons] at found
      rw [readMembers] at decoded
      by_cases shadowed : (Json.get first rest).isSome = true
      · rw [if_pos shadowed] at decoded
        cases later : Json.get name rest with
        | some other =>
            rw [later, Option.some_or] at found
            rw [found] at later
            exact induction decoded later
        | none =>
            rw [later, Option.none_or] at found
            by_cases same : first = name
            · rw [same, later] at shadowed
              cases shadowed
            · rw [if_neg same] at found
              cases found
      · rw [if_neg shadowed] at decoded
        cases paired : both (under (.key first) (both (keys.decode first) (codec.decode inner)))
            (readMembers keys codec rest) with
        | error issues =>
            rw [paired] at decoded
            cases decoded
        | ok pair =>
            obtain ⟨head, tail⟩ := both_ok.1 paired
            cases later : Json.get name rest with
            | some other =>
                rw [later, Option.some_or] at found
                rw [found] at later
                exact induction tail later
            | none =>
                rw [later, Option.none_or] at found
                by_cases same : first = name
                · rw [if_pos same, Option.some.injEq] at found
                  rw [← found]
                  exact ⟨pair.1.2, (both_ok.1 (under_ok.1 head)).2⟩
                · rw [if_neg same] at found
                  cases found

theorem located_members (early members : List (String × Document)) :
    Faults (Issue.About · (.object (early ++ members))) (readMembers keys codec members) := by
  induction members generalizing early with
  | nil => exact faults_ok []
  | cons member rest induction =>
      obtain ⟨name, doc⟩ := member
      have later := induction (early ++ [(name, doc)])
      rw [List.append_assoc] at later
      rw [readMembers]
      by_cases shadowed : (Json.get name rest).isSome = true
      · rw [if_pos shadowed]
        exact later
      · rw [if_neg shadowed]
        have last : Json.get name (early ++ (name, doc) :: rest) = some doc := by
          rw [Bool.not_eq_true, Option.isSome_eq_false_iff, Option.isNone_iff_eq_none] at shadowed
          rw [Json.get_append, Json.get_cons, shadowed, Option.none_or, if_pos rfl, Option.some_or]
        have keyed : Faults (Issue.About · doc) (keys.decode name) := by
          unfold Keys.decode
          cases keys.read name with
          | some key => exact faults_ok key
          | none => exact faults_one (.inl rfl)
        apply Faults.map
        apply faults_both _ later
        apply faults_under (faults_both keyed (codec.located doc))
        intro issue about
        exact about_under (reach_member last) about

theorem readMembers_encode (entries : List (Key × Value))
    (distinct : (entries.map Prod.fst).Nodup) :
    readMembers keys codec (entries.map fun entry => (keys.write entry.1, codec.encode entry.2)) =
      .ok entries := by
  induction entries with
  | nil => rfl
  | cons entry entries induction =>
      rw [List.map_cons, List.nodup_cons] at distinct
      have fresh : Json.get (keys.write entry.1)
          (entries.map fun other => (keys.write other.1, codec.encode other.2)) = none := by
        rw [Json.get_eq_none_iff, List.map_map]
        intro there
        obtain ⟨other, among, same⟩ := List.mem_map.1 there
        have equal : other.1 = entry.1 := by
          have back := keys.back other.1
          rw [show keys.write other.1 = keys.write entry.1 from same, keys.back] at back
          exact (Option.some.inj back).symm
        exact distinct.1 (equal ▸ List.mem_map.2 ⟨other, among, rfl⟩)
      have named : keys.decode (keys.write entry.1) = .ok entry.1 := by
        unfold Keys.decode
        rw [keys.back]
      rw [List.map_cons, readMembers, fresh, if_neg (by decide), induction distinct.2, named,
        codec.round]
      rfl

end Members

section Mappings

/-- A dictionary: its entries in the order of their keys' first appearance. -/
structure Mapping (Key Value : Type) where
  entries : List (Key × Value)
  distinct : (entries.map Prod.fst).Nodup

def Mapping.empty {Key Value : Type} : Mapping Key Value := ⟨[], List.nodup_nil⟩

variable {Key Value : Type} [DecidableEq Key]

/-- Sets the value of a key, in its place if it has one. -/
def put (key : Key) (value : Value) : List (Key × Value) → List (Key × Value)
  | [] => [(key, value)]
  | entry :: entries =>
      if entry.1 = key then (key, value) :: entries else entry :: put key value entries

theorem put_keys (key : Key) (value : Value) (entries : List (Key × Value)) :
    (put key value entries).map Prod.fst =
      if key ∈ entries.map Prod.fst then entries.map Prod.fst
      else entries.map Prod.fst ++ [key] := by
  induction entries with
  | nil => rfl
  | cons entry entries induction =>
      rw [put]
      by_cases same : entry.1 = key
      · simp [same]
      · have other : key ≠ entry.1 := fun equal => same equal.symm
        rw [if_neg same, List.map_cons, induction]
        have still : key ∈ (entry :: entries).map Prod.fst ↔ key ∈ entries.map Prod.fst := by
          rw [List.map_cons, List.mem_cons, or_iff_right other]
        by_cases known : key ∈ entries.map Prod.fst
        · rw [if_pos known, if_pos (still.2 known), List.map_cons]
        · rw [if_neg known, if_neg fun there => known (still.1 there), List.map_cons,
            List.cons_append]

theorem put_distinct (key : Key) (value : Value) {entries : List (Key × Value)}
    (distinct : (entries.map Prod.fst).Nodup) : ((put key value entries).map Prod.fst).Nodup := by
  rw [put_keys]
  by_cases known : key ∈ entries.map Prod.fst
  · rwa [if_pos known]
  · rw [if_neg known]
    refine List.nodup_append.2 ⟨distinct, List.nodup_singleton key, ?_⟩
    rintro other there key' last rfl
    rw [List.mem_singleton.1 last] at there
    exact known there

theorem put_new {key : Key} (value : Value) {entries : List (Key × Value)}
    (fresh : key ∉ entries.map Prod.fst) : put key value entries = entries ++ [(key, value)] := by
  induction entries with
  | nil => rfl
  | cons entry entries induction =>
      rw [List.map_cons, List.mem_cons, not_or] at fresh
      rw [put, if_neg fun same => fresh.1 same.symm, induction fresh.2, List.cons_append]

def Mapping.set (mapping : Mapping Key Value) (entry : Key × Value) : Mapping Key Value where
  entries := put entry.1 entry.2 mapping.entries
  distinct := put_distinct entry.1 entry.2 mapping.distinct

/-- The dictionary of some entries, of which a later one counts. -/
def Mapping.ofEntries (entries : List (Key × Value)) : Mapping Key Value :=
  entries.foldl Mapping.set .empty

theorem foldl_set (mapping : Mapping Key Value) {entries : List (Key × Value)}
    (distinct : ((mapping.entries ++ entries).map Prod.fst).Nodup) :
    entries.foldl Mapping.set mapping = ⟨mapping.entries ++ entries, distinct⟩ := by
  induction entries generalizing mapping with
  | nil => simp
  | cons entry entries induction =>
      have fresh : entry.1 ∉ mapping.entries.map Prod.fst := by
        rw [List.map_append, List.map_cons] at distinct
        exact fun known => (List.nodup_append.1 distinct).2.2 _ known _ List.mem_cons_self rfl
      have grown : (mapping.set entry).entries = mapping.entries ++ [entry] := put_new entry.2 fresh
      have still : (((mapping.set entry).entries ++ entries).map Prod.fst).Nodup := by
        rwa [grown, List.append_assoc]
      rw [List.foldl_cons, induction (mapping.set entry) still]
      simp [grown]

theorem ofEntries_entries (mapping : Mapping Key Value) :
    Mapping.ofEntries mapping.entries = mapping :=
  foldl_set .empty mapping.distinct

/-- `dict[Key, Value]` -/
def Codec.mapping (keys : Keys Key) (codec : Codec Value) : Codec (Mapping Key Value) where
  shape := .table codec.shape
  encode mapping :=
    .object (mapping.entries.map fun entry => (keys.write entry.1, codec.encode entry.2))
  decode
    | .object members => Mapping.ofEntries <$> readMembers keys codec members
    | _ => .error [⟨[], .kind⟩]
  round mapping := by
    dsimp only
    rw [readMembers_encode keys codec mapping.entries mapping.distinct]
    exact congrArg Except.ok (ofEntries_entries mapping)
  fits doc mapping decoded := by
    cases doc with
    | object members =>
        cases read : readMembers keys codec members with
        | ok entries =>
            refine .table fun name inner found => ?_
            obtain ⟨value, fine⟩ := readMembers_ok keys codec read name inner found
            exact codec.fits inner value fine
        | error issues =>
            dsimp only at decoded
            rw [read] at decoded
            cases decoded
    | scalar value => cases decoded
    | text value => cases decoded
    | array docs => cases decoded
  located doc := by
    cases doc with
    | object members => exact (located_members keys codec [] members).map Mapping.ofEntries
    | scalar value => exact faults_one (about_here _ _)
    | text value => exact faults_one (about_here _ _)
    | array docs => exact faults_one (about_here _ _)

end Mappings

section Rows

/-- Some fields of a record. -/
structure Row (Value : Type) where
  fields : List (String × Shape)
  write : Value → List (String × Document)
  take : List (String × Document) → Checked Value
  written : ∀ value, ∀ member ∈ write value, member.1 ∈ fields.map Prod.fst
  round : ∀ value members, (∀ name ∈ fields.map Prod.fst,
    Json.get name members = Json.get name (write value)) → take members = .ok value
  fits : ∀ members value, take members = .ok value → ∀ name shape doc, (name, shape) ∈ fields →
    Json.get name members = some doc → doc ≠ .scalar .null → Fits shape doc
  located : ∀ members, Faults (Issue.About · (.object members)) (take members)

namespace Row

variable {Value Other : Type}

/-- What a member says, where there is one. -/
def present (codec : Codec Value) (name : String) (doc : Document) : Checked Value :=
  under (.key name) (codec.decode doc)

theorem faults_present (codec : Codec Value) {name : String} {doc : Document}
    {members : List (String × Document)} (found : Json.get name members = some doc) :
    Faults (Issue.About · (.object members)) (present codec name doc) :=
  faults_under (codec.located doc) fun _ about => about_under (reach_member found) about

theorem get_single (name : String) (doc : Document) : Json.get name [(name, doc)] = some doc := by
  rw [Json.get_cons, if_pos rfl]
  rfl

/-- A field that has to be there. -/
def required (name : String) (codec : Codec Value) : Row Value where
  fields := [(name, codec.shape)]
  write value := [(name, codec.encode value)]
  take members := match Json.get name members with
    | some doc => present codec name doc
    | none => .error [⟨[.key name], .missing⟩]
  written value member among := by
    rw [List.mem_singleton.1 among]
    exact List.mem_singleton.2 rfl
  round value members same := by
    rw [same name (List.mem_singleton.2 rfl), get_single]
    exact under_ok.2 (codec.round value)
  fits members value taken other shape doc among found solid := by
    cases List.mem_singleton.1 among
    rw [found] at taken
    exact codec.fits doc value (under_ok.1 taken)
  located members := by
    cases found : Json.get name members with
    | some doc => exact faults_present codec found
    | none => exact faults_one (about_missing found)

/-- A field with a default. -/
def defaulted (name : String) (codec : Codec Value) (default : Value) : Row Value where
  fields := [(name, codec.shape)]
  write value := [(name, codec.encode value)]
  take members := match Json.get name members with
    | some doc => present codec name doc
    | none => .ok default
  written value member among := by
    rw [List.mem_singleton.1 among]
    exact List.mem_singleton.2 rfl
  round value members same := by
    rw [same name (List.mem_singleton.2 rfl), get_single]
    exact under_ok.2 (codec.round value)
  fits members value taken other shape doc among found solid := by
    cases List.mem_singleton.1 among
    rw [found] at taken
    exact codec.fits doc value (under_ok.1 taken)
  located members := by
    cases found : Json.get name members with
    | some doc => exact faults_present codec found
    | none => exact faults_ok default

/-- A field that may be null, is null where it is not there, and is not written then. -/
def optional (name : String) (codec : Codec Value)
    (solid : ∀ value, codec.encode value ≠ .scalar .null) : Row (Option Value) where
  fields := [(name, codec.shape)]
  write value := (value.map fun value => (name, codec.encode value)).toList
  take members := match Json.get name members with
    | some (.scalar .null) => .ok none
    | some doc => some <$> present codec name doc
    | none => .ok none
  written value member among := by
    cases value with
    | none => cases among
    | some value =>
        rw [List.mem_singleton.1 among]
        exact List.mem_singleton.2 rfl
  round value members same := by
    rw [same name (List.mem_singleton.2 rfl)]
    cases value with
    | none => rfl
    | some value =>
        change (match Json.get name [(name, codec.encode value)] with
          | some (.scalar .null) => .ok none
          | some doc => some <$> present codec name doc
          | none => .ok none) = Except.ok (some value)
        rw [get_single]
        have read : some <$> present codec name (codec.encode value) = .ok (some value) :=
          congrArg (some <$> ·) (under_ok.2 (codec.round value))
        split
        next null =>
          exact absurd (Option.some.inj null) (solid value)
        next doc _ same =>
          rw [← Option.some.inj same]
          exact read
        next absent => cases absent
  fits members value taken other shape doc among found solid := by
    cases List.mem_singleton.1 among
    rw [found] at taken
    split at taken
    next null =>
      exact absurd (Option.some.inj null) solid
    next inner _ same =>
      rw [← Option.some.inj same] at taken
      cases read : codec.decode doc with
      | ok inner => exact codec.fits doc inner read
      | error issues =>
          rw [present, read] at taken
          cases taken
    next absent => cases absent
  located members := by
    split
    next => exact faults_ok none
    next doc _ found => exact (faults_present codec found).map some
    next => exact faults_ok none

@[simp] theorem required_fields (name : String) (codec : Codec Value) :
    (required name codec).fields = [(name, codec.shape)] := rfl

@[simp] theorem defaulted_fields (name : String) (codec : Codec Value) (default : Value) :
    (defaulted name codec default).fields = [(name, codec.shape)] := rfl

@[simp] theorem optional_fields (name : String) (codec : Codec Value)
    (solid : ∀ value, codec.encode value ≠ .scalar .null) :
    (optional name codec solid).fields = [(name, codec.shape)] := rfl

/-- The fields of two rows. -/
def and (first : Row Value) (second : Row Other)
    (apart : ∀ name ∈ first.fields.map Prod.fst, name ∉ second.fields.map Prod.fst := by simp) :
    Row (Value × Other) where
  fields := first.fields ++ second.fields
  write pair := first.write pair.1 ++ second.write pair.2
  take members := both (first.take members) (second.take members)
  written pair member among := by
    rw [List.map_append, List.mem_append]
    rcases List.mem_append.1 among with left | right
    · exact .inl (first.written pair.1 member left)
    · exact .inr (second.written pair.2 member right)
  round pair members same := by
    rw [both_ok]
    constructor
    · apply first.round
      intro name among
      rw [same name (by rw [List.map_append]; exact List.mem_append_left _ among),
        Json.get_append, (Json.get_eq_none_iff name _).2, Option.none_or]
      intro there
      obtain ⟨member, inside, rfl⟩ := List.mem_map.1 there
      exact apart _ among (second.written pair.2 member inside)
    · apply second.round
      intro name among
      rw [same name (by rw [List.map_append]; exact List.mem_append_right _ among),
        Json.get_append, (Json.get_eq_none_iff name (first.write pair.1)).2, Option.or_none]
      intro there
      obtain ⟨member, inside, rfl⟩ := List.mem_map.1 there
      exact apart _ (first.written pair.1 member inside) among
  fits members pair taken name shape doc among found solid := by
    obtain ⟨left, right⟩ := both_ok.1 taken
    rcases List.mem_append.1 among with inside | inside
    · exact first.fits members pair.1 left name shape doc inside found solid
    · exact second.fits members pair.2 right name shape doc inside found solid
  located members := faults_both (first.located members) (second.located members)

@[simp] theorem and_fields (first : Row Value) (second : Row Other)
    (apart : ∀ name ∈ first.fields.map Prod.fst, name ∉ second.fields.map Prod.fst) :
    (first.and second apart).fields = first.fields ++ second.fields := rfl

/-- The members that no field is called. -/
def extras (row : Row Value) (members : List (String × Document)) : List Issue :=
  members.filterMap fun member =>
    if member.1 ∈ row.fields.map Prod.fst then none else some ⟨[.key member.1], .extra⟩

def noExtras (row : Row Value) (members : List (String × Document)) : Checked Unit :=
  if (row.extras members).isEmpty then .ok () else .error (row.extras members)

theorem declared_of_noExtras {row : Row Value} {members : List (String × Document)}
    (none_ : row.noExtras members = .ok ()) : ∀ member ∈ members,
      member.1 ∈ row.fields.map Prod.fst := by
  unfold noExtras at none_
  split at none_
  next empty =>
    intro member among
    rw [List.isEmpty_iff, extras, List.filterMap_eq_nil_iff] at empty
    have known := empty member among
    by_cases declared : member.1 ∈ row.fields.map Prod.fst
    · exact declared
    · rw [if_neg declared] at known
      cases known
  next => cases none_

theorem faults_noExtras (row : Row Value) (members : List (String × Document)) :
    Faults (Issue.About · (.object members)) (row.noExtras members) := by
  unfold noExtras
  split
  next => exact faults_ok ()
  next some_ =>
    intro issues failed
    cases failed
    refine ⟨fun empty => some_ (List.isEmpty_iff.2 empty), fun issue among => ?_⟩
    obtain ⟨member, inside, made⟩ := List.mem_filterMap.1 among
    split at made
    next => cases made
    next =>
      cases made
      obtain ⟨doc, found⟩ := Option.isSome_iff_exists.1 ((Json.get_isSome_iff member.1 members).2
        (List.mem_map.2 ⟨member, inside, rfl⟩))
      refine .inl ?_
      rw [reach_member found]
      rfl

/-- A record of these fields and of no others. -/
def codec (row : Row Value) : Codec Value where
  shape := .record row.fields
  encode value := .object (row.write value)
  decode
    | .object members => Prod.fst <$> both (row.take members) (row.noExtras members)
    | _ => .error [⟨[], .kind⟩]
  round value := by
    have taken := row.round value (row.write value) fun _ _ => rfl
    have fine : row.noExtras (row.write value) = .ok () := by
      have empty : row.extras (row.write value) = [] := by
        unfold extras
        rw [List.filterMap_eq_nil_iff]
        intro member among
        rw [if_pos (row.written value member among)]
      unfold noExtras
      rw [empty]
      rfl
    dsimp only
    rw [taken, fine]
    rfl
  fits doc value decoded := by
    cases doc with
    | object members =>
        dsimp only at decoded
        cases paired : both (row.take members) (row.noExtras members) with
        | ok pair =>
            obtain ⟨taken, fine⟩ := both_ok.1 paired
            exact .record (declared_of_noExtras fine) (row.fits members pair.1 taken)
        | error issues =>
            rw [paired] at decoded
            cases decoded
    | scalar value => cases decoded
    | text value => cases decoded
    | array docs => cases decoded
  located doc := by
    cases doc with
    | object members =>
        exact (faults_both (row.located members) (row.faults_noExtras members)).map Prod.fst
    | scalar value => exact faults_one (about_here _ _)
    | text value => exact faults_one (about_here _ _)
    | array docs => exact faults_one (about_here _ _)

theorem codec_ok {row : Row Value} {members : List (String × Document)} {value : Value}
    (decoded : row.codec.decode (.object members) = .ok value) : row.take members = .ok value := by
  change Prod.fst <$> both (row.take members) (row.noExtras members) = _ at decoded
  cases paired : both (row.take members) (row.noExtras members) with
  | error issues =>
      rw [paired] at decoded
      cases decoded
  | ok pair =>
      rw [paired] at decoded
      rw [← Except.ok.inj decoded]
      exact (both_ok.1 paired).1

theorem required_ok {name : String} {codec : Codec Value} {members : List (String × Document)}
    {value : Value} (taken : (required name codec).take members = .ok value) :
    ∃ doc, Json.get name members = some doc ∧ codec.decode doc = .ok value := by
  change (match Json.get name members with
    | some doc => present codec name doc
    | none => .error [⟨[.key name], .missing⟩]) = _ at taken
  cases found : Json.get name members with
  | none =>
      rw [found] at taken
      cases taken
  | some doc =>
      rw [found] at taken
      exact ⟨doc, rfl, under_ok.1 taken⟩

end Row

end Rows

end Documents
