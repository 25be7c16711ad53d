import OpenReachout.Compliance.Claims
import OpenReachout.Properties.Compositions

/-!
# The registry as a record of the claims

Whether the rows of a version hold every claim of the configurations that got it depends on
the ids of the claims: they are what the rows are kept under.
-/

namespace OpenReachout

open Relational Text Text.Platform

set_option autoImplicit false

namespace Claims

variable {runtime : Runtime} {tenant version : String} {registry later : ClaimRegistry}
  {claims : List String} {aboutUs : AboutUs runtime}

section Calls

theorem register_ok {claimText : String}
    (succeeds : register runtime tenant version registry claimText = .ok later) :
    (storable tenant.toList = true ∧ storable (strip claimText.toList) = true) ∧
      later = registry.insert (tenant, claimId runtime.platform claimText, version)
        { claimText := String.ofList (strip claimText.toList) } := by
  unfold register at succeeds
  by_cases stored : (storable tenant.toList && storable (strip claimText.toList)) = true
  · rw [if_pos stored] at succeeds
    exact ⟨by simpa using stored, (Except.ok.inj succeeds).symm⟩
  · rw [if_neg stored] at succeeds
    cases succeeds

theorem foldlM_register_cons {claimText : String}
    (succeeds : (claimText :: claims).foldlM (register runtime tenant version) registry = .ok later) :
    ∃ middle, register runtime tenant version registry claimText = .ok middle ∧
      claims.foldlM (register runtime tenant version) middle = .ok later := by
  rw [List.foldlM_cons] at succeeds
  cases first : register runtime tenant version registry claimText with
  | error exc =>
      rw [first] at succeeds
      cases succeeds
  | ok middle =>
      rw [first] at succeeds
      exact ⟨middle, rfl, succeeds⟩

theorem stored_of_registered
    (succeeds : claims.foldlM (register runtime tenant version) registry = .ok later) :
    ∀ claimText ∈ claims,
      storable tenant.toList = true ∧ storable (strip claimText.toList) = true := by
  induction claims generalizing registry with
  | nil => exact fun claimText member => absurd member List.not_mem_nil
  | cons claimText claims induction =>
      obtain ⟨middle, first, rest⟩ := foldlM_register_cons succeeds
      intro other member
      rcases List.mem_cons.1 member with rfl | later
      · exact (register_ok first).1
      · exact induction rest other later

theorem registers_of_stored (stored : storable tenant.toList = true)
    (every : ∀ claimText ∈ claims, storable (strip claimText.toList) = true) :
    ∃ later, claims.foldlM (register runtime tenant version) registry = .ok later := by
  induction claims generalizing registry with
  | nil => exact ⟨registry, rfl⟩
  | cons claimText claims induction =>
      have first : register runtime tenant version registry claimText =
          .ok (registry.insert (tenant, claimId runtime.platform claimText, version)
            { claimText := String.ofList (strip claimText.toList) }) := by
        unfold register
        rw [stored, every claimText List.mem_cons_self]
        rfl
      have rest := fun other member => every other (List.mem_cons_of_mem _ member)
      obtain ⟨later, others⟩ := induction rest
      refine ⟨later, ?_⟩
      rw [List.foldlM_cons, first]
      exact others

/-- No row changes. -/
theorem kept_of_registered
    (succeeds : claims.foldlM (register runtime tenant version) registry = .ok later)
    {key : String × String × String} {row : ClaimRow} (found : registry.lookup key = some row) :
    later.lookup key = some row := by
  induction claims generalizing registry with
  | nil =>
      obtain rfl := Except.ok.inj succeeds
      exact found
  | cons claimText claims induction =>
      obtain ⟨middle, first, rest⟩ := foldlM_register_cons succeeds
      apply induction rest
      rw [(register_ok first).2, Table.lookup_insert]
      split_ifs with same
      · rw [← same, found, Option.getD_some]
      · exact found

/-- Every claim has a row under its id. -/
theorem present_of_registered
    (succeeds : claims.foldlM (register runtime tenant version) registry = .ok later)
    {claimText : String} (member : claimText ∈ claims) :
    ∃ row, later.lookup (tenant, claimId runtime.platform claimText, version) = some row := by
  induction claims generalizing registry with
  | nil => exact absurd member List.not_mem_nil
  | cons first claims induction =>
      obtain ⟨middle, inserted, rest⟩ := foldlM_register_cons succeeds
      rcases List.mem_cons.1 member with rfl | other
      · refine ⟨(registry.lookup (tenant, claimId runtime.platform claimText, version)).getD
          { claimText := String.ofList (strip claimText.toList) }, kept_of_registered rest ?_⟩
        rw [(register_ok inserted).2, Table.lookup_insert, if_pos rfl]
      · exact induction rest other

/-- A row was there before, or it is that of one of the claims. -/
theorem origin_of_registered
    (succeeds : claims.foldlM (register runtime tenant version) registry = .ok later)
    {key : String × String × String} {row : ClaimRow} (found : later.lookup key = some row) :
    registry.lookup key = some row ∨ ∃ claimText ∈ claims,
      key = (tenant, claimId runtime.platform claimText, version) ∧
        row.claimText = String.ofList (strip claimText.toList) := by
  induction claims generalizing registry with
  | nil =>
      obtain rfl := Except.ok.inj succeeds
      exact Or.inl found
  | cons claimText claims induction =>
      obtain ⟨middle, first, rest⟩ := foldlM_register_cons succeeds
      rcases induction rest with earlier | ⟨other, member, same, text⟩
      · rw [(register_ok first).2, Table.lookup_insert] at earlier
        split_ifs at earlier with same
        · cases before : registry.lookup key with
          | some old =>
              rw [← same, before] at earlier
              exact Or.inl earlier
          | none =>
              rw [← same, before] at earlier
              obtain rfl := Option.some.inj earlier
              exact Or.inr ⟨claimText, List.mem_cons_self, same, rfl⟩
        · exact Or.inl earlier
      · exact Or.inr ⟨other, List.mem_cons_of_mem _ member, same, text⟩

theorem ensureRegistry_ok (allowlist : aboutUs.claimsMode = .allowlist) {returned : String} :
    ensureRegistry tenant aboutUs registry = .ok (later, returned) ↔
      aboutUs.approvedClaims.foldlM (register runtime tenant (registryVersion aboutUs)) registry =
        .ok later ∧ registryVersion aboutUs = returned := by
  unfold ensureRegistry
  rw [if_pos allowlist]
  cases aboutUs.approvedClaims.foldlM (register runtime tenant (registryVersion aboutUs))
      registry with
  | error exc => exact ⟨fun fails => (by cases fails), fun fails => (by cases fails.1)⟩
  | ok other =>
      constructor
      · intro returns
        obtain ⟨rfl, rfl⟩ := Prod.mk.inj (Except.ok.inj returns)
        exact ⟨rfl, rfl⟩
      · rintro ⟨same, rfl⟩
        rw [Except.ok.inj same]
        rfl

end Calls

section Normal

theorem strip_strip (text : List Char) : strip (strip text) = strip text := by
  obtain ⟨before, after, front, back, whole⟩ := exists_spaces_strip text
  have stripped : strip text = strip (before ++ strip text ++ after) := congrArg strip whole
  rw [strip_spaces front back] at stripped
  exact stripped.symm

/-- The normal forms of the claims of a configuration. -/
def normals (aboutUs : AboutUs runtime) : List (List Char) :=
  aboutUs.approvedClaims.map (normalized runtime.platform)

theorem unstorable_iff {text : List Char} : storable text = true ↔ '\x00' ∉ text := by
  unfold storable
  rw [Bool.not_eq_true', ← Bool.not_eq_true, List.contains_iff_mem]

/-- The text that is digested names the claims: none has the character between them. -/
theorem same_normals_of_text {first second : AboutUs runtime}
    (first_allowlist : first.claimsMode = .allowlist)
    (second_allowlist : second.claimsMode = .allowlist)
    (first_stored : ∀ normal ∈ normals first, storable normal = true)
    (second_stored : ∀ normal ∈ normals second, storable normal = true)
    (same : versionText runtime.platform first.approvedClaims =
      versionText runtime.platform second.approvedClaims) (normal : List Char) :
    normal ∈ normals first ↔ normal ∈ normals second := by
  have split : ∀ aboutUs : AboutUs runtime, aboutUs.claimsMode = .allowlist →
      (∀ normal ∈ normals aboutUs, storable normal = true) →
      (versionText runtime.platform aboutUs.approvedClaims).splitOn '\x00' =
        (normals aboutUs).insertionSort fun first second => atMost first second = true := by
    intro aboutUs allowlist stored
    have sorted := List.perm_insertionSort (fun first second => atMost first second = true)
      (normals aboutUs)
    apply List.splitOn_intercalate
    · intro normal member
      exact unstorable_iff.1 (stored normal (sorted.mem_iff.1 member))
    · intro empty
      have none_listed : normals aboutUs = [] := by
        apply List.nil_perm.1
        rw [← empty]
        exact sorted
      exact aboutUs.claims_some allowlist (List.map_eq_nil_iff.1 none_listed)
  have texts := congrArg (List.splitOn '\x00') same
  rw [split first first_allowlist first_stored, split second second_allowlist second_stored] at texts
  rw [← List.mem_insertionSort fun first second => atMost first second = true, texts,
    List.mem_insertionSort]

end Normal

section Runs

/-- Rows belong to claims of the configurations that were registered. -/
def Originates (tenant : String) (configs : List (AboutUs runtime)) (registry : ClaimRegistry) :
    Prop :=
  ∀ key row, registry.lookup key = some row → ∃ aboutUs ∈ configs,
    ∃ claimText ∈ aboutUs.approvedClaims,
      key = (tenant, claimId runtime.platform claimText, registryVersion aboutUs) ∧
        row.claimText = String.ofList (strip claimText.toList)

theorem originates_afterCall (allowlist : aboutUs.claimsMode = .allowlist)
    {configs : List (AboutUs runtime)} (originates : Originates tenant configs registry) :
    Originates tenant (configs ++ [aboutUs]) (afterCall tenant registry aboutUs) := by
  have earlier : ∀ key row, registry.lookup key = some row → ∃ other ∈ configs ++ [aboutUs],
      ∃ claimText ∈ other.approvedClaims,
        key = (tenant, claimId runtime.platform claimText, registryVersion other) ∧
          row.claimText = String.ofList (strip claimText.toList) := by
    intro key row found
    obtain ⟨other, member, claim⟩ := originates key row found
    exact ⟨other, List.mem_append_left _ member, claim⟩
  intro key row found
  unfold afterCall at found
  cases call : ensureRegistry tenant aboutUs registry with
  | error exc =>
      rw [call] at found
      exact earlier key row found
  | ok outcome =>
      obtain ⟨later, returned⟩ := outcome
      rw [call] at found
      have registers := ((ensureRegistry_ok allowlist).1 call).1
      rcases origin_of_registered registers found with before | ⟨claimText, member, same, text⟩
      · exact earlier key row before
      · exact ⟨aboutUs, List.mem_append_right _ (List.mem_singleton_self _), claimText, member, same,
          text⟩

theorem originates_afterCalls (configs : List (AboutUs runtime))
    (allowlist : ∀ aboutUs ∈ configs, aboutUs.claimsMode = .allowlist) :
    Originates tenant configs (afterCalls tenant Table.empty configs) := by
  induction configs using List.reverseRecOn with
  | nil =>
      intro key row found
      rw [show afterCalls tenant Table.empty ([] : List (AboutUs runtime)) = Table.empty from rfl,
        Table.lookup_empty] at found
      cases found
  | append_singleton configs aboutUs induction =>
      unfold afterCalls
      rw [List.foldl_concat]
      apply originates_afterCall
      · exact allowlist aboutUs (List.mem_append_right _ (List.mem_singleton_self _))
      · exact induction fun other member => allowlist other (List.mem_append_left _ member)

/-- The rows of the version have the claim, up to the case of its letters. -/
def Contains (platform : Platform) (registry : ClaimRegistry) (tenant version claimText : String) :
    Prop :=
  ∃ id row, registry.lookup (tenant, id, version) = some row ∧
    platform.lower row.claimText.toList = normalized platform claimText

/-- The call returns a version whose rows have every claim, and no earlier row changes. -/
def Records (tenant : String) (registry : ClaimRegistry) (aboutUs : AboutUs runtime) : Prop :=
  ∃ later version, ensureRegistry tenant aboutUs registry = .ok (later, version) ∧
    (∀ claimText ∈ aboutUs.approvedClaims,
      Contains runtime.platform later tenant version claimText) ∧
    ∀ key row, registry.lookup key = some row → later.lookup key = some row

/-- Every call of the sequence records its claims, and configurations with one version have
the same claims. -/
structure Faithful (tenant : String) (configs : List (AboutUs runtime)) : Prop where
  records : ∀ earlier aboutUs rest, configs = earlier ++ aboutUs :: rest →
    Records tenant (afterCalls tenant Table.empty earlier) aboutUs
  versions : ∀ first ∈ configs, ∀ second ∈ configs,
    registryVersion first = registryVersion second →
      ∀ normal, normal ∈ normals first ↔ normal ∈ normals second

/-- Claims of the configuration with one id are one claim, and all of them can be stored. -/
structure Separate (tenant : String) (aboutUs : AboutUs runtime) : Prop where
  tenant : storable tenant.toList = true
  stored : ∀ claimText ∈ aboutUs.approvedClaims, storable (strip claimText.toList) = true
  apart : ∀ first ∈ aboutUs.approvedClaims, ∀ second ∈ aboutUs.approvedClaims,
    claimId runtime.platform first = claimId runtime.platform second →
      normalized runtime.platform first = normalized runtime.platform second

/-- Different texts to be digested have different versions. -/
def Collisionless (configs : List (AboutUs runtime)) : Prop :=
  ∀ first ∈ configs, ∀ second ∈ configs,
    digest runtime.platform (versionText runtime.platform first.approvedClaims) =
        digest runtime.platform (versionText runtime.platform second.approvedClaims) →
      versionText runtime.platform first.approvedClaims =
        versionText runtime.platform second.approvedClaims

variable {configs : List (AboutUs runtime)}

theorem lower_of_row {row : ClaimRow} {claimText : String}
    (text : row.claimText = String.ofList (strip claimText.toList)) :
    runtime.platform.lower row.claimText.toList = normalized runtime.platform claimText := by
  rw [text, String.toList_ofList]
  rfl

theorem same_normals_of_version
    (lowers : ∀ text, storable text = true → storable (runtime.platform.lower text) = true)
    (collisionless : Collisionless configs)
    (allowlist : ∀ aboutUs ∈ configs, aboutUs.claimsMode = .allowlist)
    (separate : ∀ aboutUs ∈ configs, Separate tenant aboutUs) {first second : AboutUs runtime}
    (first_listed : first ∈ configs) (second_listed : second ∈ configs)
    (same : registryVersion first = registryVersion second) (normal : List Char) :
    normal ∈ normals first ↔ normal ∈ normals second := by
  have stored : ∀ aboutUs ∈ configs, ∀ normal ∈ normals aboutUs, storable normal = true := by
    intro aboutUs listed normal member
    obtain ⟨claimText, claim, rfl⟩ := List.mem_map.1 member
    exact lowers _ ((separate aboutUs listed).stored claimText claim)
  apply same_normals_of_text (allowlist first first_listed) (allowlist second second_listed)
    (stored first first_listed) (stored second second_listed)
  apply collisionless first first_listed second second_listed
  unfold registryVersion at same
  have active : ∀ aboutUs ∈ configs, ¬ aboutUs.claimsMode ≠ .allowlist :=
    fun aboutUs listed denied => denied (allowlist aboutUs listed)
  rw [if_neg (active first first_listed), if_neg (active second second_listed)] at same
  apply String.toList_inj.1
  have texts := congrArg String.toList same
  rw [String.toList_append, String.toList_append] at texts
  exact List.append_cancel_left texts

theorem records_of_separate
    (lowers : ∀ text, storable text = true → storable (runtime.platform.lower text) = true)
    (collisionless : Collisionless configs)
    (allowlist : ∀ aboutUs ∈ configs, aboutUs.claimsMode = .allowlist)
    (separate : ∀ aboutUs ∈ configs, Separate tenant aboutUs)
    {earlier rest : List (AboutUs runtime)} (split : configs = earlier ++ aboutUs :: rest) :
    Records tenant (afterCalls tenant Table.empty earlier) aboutUs := by
  have listed : aboutUs ∈ configs := by
    rw [split]
    exact List.mem_append_right _ List.mem_cons_self
  have listed_earlier : ∀ other ∈ earlier, other ∈ configs := by
    intro other member
    rw [split]
    exact List.mem_append_left _ member
  have originates : Originates tenant earlier (afterCalls tenant Table.empty earlier) :=
    originates_afterCalls earlier fun other member => allowlist other (listed_earlier other member)
  have mine := separate aboutUs listed
  obtain ⟨later, registers⟩ : ∃ later, aboutUs.approvedClaims.foldlM
      (register runtime tenant (registryVersion aboutUs)) (afterCalls tenant Table.empty earlier) =
        .ok later := registers_of_stored mine.tenant mine.stored
  refine ⟨later, registryVersion aboutUs,
    (ensureRegistry_ok (allowlist aboutUs listed)).2 ⟨registers, rfl⟩, ?_,
    fun key row found => kept_of_registered registers found⟩
  intro claimText member
  obtain ⟨row, found⟩ := present_of_registered registers member
  refine ⟨_, row, found, ?_⟩
  rcases origin_of_registered registers found with before | ⟨other, there, same, text⟩
  · -- a configuration with the same version, hence the same claims, has left the row
    obtain ⟨other, among, claim, claimed, same, text⟩ := originates _ row before
    obtain ⟨-, ids, versions⟩ : tenant = tenant ∧ claimId runtime.platform claimText =
        claimId runtime.platform claim ∧ registryVersion aboutUs = registryVersion other := by
      simpa using same
    have normal : normalized runtime.platform claim ∈ normals aboutUs :=
      (same_normals_of_version lowers collisionless allowlist separate listed
        (listed_earlier other among) versions _).2 (List.mem_map_of_mem claimed)
    obtain ⟨own, owned, equal⟩ := List.mem_map.1 normal
    rw [lower_of_row text, ← equal]
    apply mine.apart own owned claimText member
    rw [ids]
    unfold claimId
    rw [equal]
  · rw [lower_of_row text]
    apply mine.apart other there claimText member
    exact (Prod.mk.inj (Prod.mk.inj same).2).1.symm

theorem separate_of_records (allowlist : aboutUs.claimsMode = .allowlist)
    {earlier : List (AboutUs runtime)}
    (originates : Originates tenant earlier registry) (records : Records tenant registry aboutUs) :
    Separate tenant aboutUs := by
  obtain ⟨later, version, call, contains, -⟩ := records
  obtain ⟨registers, rfl⟩ := (ensureRegistry_ok allowlist).1 call
  have stored := stored_of_registered registers
  -- the id a claim's row is kept under is that of the claim
  have row_of : ∀ claimText ∈ aboutUs.approvedClaims, ∃ row,
      later.lookup (tenant, claimId runtime.platform claimText, registryVersion aboutUs) = some row ∧
        runtime.platform.lower row.claimText.toList = normalized runtime.platform claimText := by
    intro claimText member
    obtain ⟨id, row, found, lowered⟩ := contains claimText member
    have kept : id = claimId runtime.platform claimText := by
      have from_claim : ∃ claim : String, id = claimId runtime.platform claim ∧
          row.claimText = String.ofList (strip claim.toList) := by
        rcases origin_of_registered registers found with before | ⟨claim, -, same, text⟩
        · obtain ⟨other, -, claim, -, same, text⟩ := originates _ row before
          exact ⟨claim, (Prod.mk.inj (Prod.mk.inj same).2).1, text⟩
        · exact ⟨claim, (Prod.mk.inj (Prod.mk.inj same).2).1, text⟩
      obtain ⟨claim, rfl, text⟩ := from_claim
      rw [lower_of_row text] at lowered
      unfold claimId
      rw [lowered]
    rw [kept] at found
    exact ⟨row, found, lowered⟩
  refine ⟨?_, fun claimText member => (stored claimText member).2, ?_⟩
  · obtain ⟨claimText, member⟩ := List.exists_mem_of_ne_nil _ (aboutUs.claims_some allowlist)
    exact (stored claimText member).1
  · intro first first_listed second second_listed same
    obtain ⟨row, found, lowered⟩ := row_of first first_listed
    obtain ⟨other, there, equal⟩ := row_of second second_listed
    rw [same, there] at found
    obtain rfl := Option.some.inj found
    exact lowered.symm.trans equal

/-- The registry records the claims of a sequence of configurations where, in each of them,
claims with one id are one claim. -/
theorem registry_faithful_iff (tenant : String) (configs : List (AboutUs runtime))
    (allowlist : ∀ aboutUs ∈ configs, aboutUs.claimsMode = .allowlist)
    (lowers : ∀ text, storable text = true → storable (runtime.platform.lower text) = true)
    (collisionless : Collisionless configs) :
    Faithful tenant configs ↔ ∀ aboutUs ∈ configs, Separate tenant aboutUs := by
  constructor
  · intro faithful aboutUs listed
    obtain ⟨earlier, rest, split⟩ := List.append_of_mem listed
    have among : ∀ other ∈ earlier, other ∈ configs := by
      intro other member
      rw [split]
      exact List.mem_append_left _ member
    exact separate_of_records (allowlist aboutUs listed)
      (originates_afterCalls earlier fun other member => allowlist other (among other member))
      (faithful.records earlier aboutUs rest split)
  · intro separate
    refine ⟨fun earlier aboutUs rest split =>
      records_of_separate lowers collisionless allowlist separate split, ?_⟩
    intro first first_listed second second_listed same
    exact same_normals_of_version lowers collisionless allowlist separate first_listed second_listed
      same

/-- Two claims that differ in what their id leaves out. -/
def tipsAbout : AboutUs plainRuntime :=
  { acmeConfig.aboutUs with
    claimsMode := .allowlist
    approvedClaims := ["Keep 10% of tips", "Keep $10 of tips"]
    claims_some := by decide
    claims_long := by decide
    assets_registered := fun _ _ member => absurd member List.not_mem_nil }

theorem tips_recorded_once :
    tipsAbout.claimsMode = .allowlist ∧
    (afterCalls "acme" Table.empty [tipsAbout]).rows.map (fun entry => entry.2.claimText) =
      ["Keep 10% of tips"] ∧ ¬ Faithful "acme" [tipsAbout] := by
  refine ⟨rfl, by decide +kernel, ?_⟩
  intro faithful
  have originates : Originates "acme" ([] : List (AboutUs plainRuntime)) Table.empty :=
    originates_afterCalls [] fun other member => absurd member List.not_mem_nil
  have separate : Separate "acme" tipsAbout :=
    separate_of_records rfl originates (faithful.records [] tipsAbout [] rfl)
  have same : normalized plainRuntime.platform "Keep 10% of tips" =
      normalized plainRuntime.platform "Keep $10 of tips" := by
    apply separate.apart "Keep 10% of tips" (by decide) "Keep $10 of tips" (by decide)
    decide +kernel
  exact absurd same (by decide +kernel)

def roomsAbout : AboutUs plainRuntime :=
  { tipsAbout with
    approvedClaims := ["Free for a month", "Quiet rooms in Austin"]
    claims_some := by decide
    claims_long := by decide
    assets_registered := fun _ _ member => absurd member List.not_mem_nil }

theorem storable_lower_ascii (digests : List (List Char × String)) (text : List Char)
    (stored : storable text = true) : storable ((Platform.ascii digests).lower text) = true := by
  rw [unstorable_iff] at stored ⊢
  intro member
  obtain ⟨char, inside, lowered⟩ := List.mem_map.1 member
  have same : char = '\x00' := (toLower_eq_iff (by decide)).1 lowered
  exact stored (same ▸ inside)

theorem rooms_recorded : roomsAbout.claimsMode = .allowlist ∧ Faithful "acme" [roomsAbout] := by
  have only : ∀ aboutUs ∈ [roomsAbout], aboutUs = roomsAbout :=
    fun aboutUs member => List.mem_singleton.1 member
  have collisionless : Collisionless [roomsAbout] := by
    intro first first_listed second second_listed _
    rw [only first first_listed, only second second_listed]
  refine ⟨rfl, (registry_faithful_iff "acme" [roomsAbout] ?_ (storable_lower_ascii [])
    collisionless).2 ?_⟩
  · intro aboutUs listed
    rw [only aboutUs listed]
    rfl
  · intro aboutUs listed
    rw [only aboutUs listed]
    refine ⟨by decide, by decide +kernel, by decide +kernel⟩

end Runs

end Claims

end OpenReachout
