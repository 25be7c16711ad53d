import OpenReachout.Properties.Allowlists

/-!
# Which approved claims can be made

An approved claim is looked for in the sentences of a text. Whether a text that is nothing
but the claim gets through depends on the marks that end sentences.
-/

namespace OpenReachout

open Text Text.Regex Text.Platform

set_option autoImplicit false

section Blanks

theorem isSpace_fold (char : Char) : isSpace (fold char) = isSpace char := by
  unfold fold
  split_ifs with long_s kelvin dotless
  · rw [long_s]
    decide
  · rw [kelvin]
    decide
  · rw [Bool.or_eq_true, decide_eq_true_eq, decide_eq_true_eq] at dotless
    rcases dotless with dotted | dotless
    · rw [dotted]
      decide
    · rw [dotless]
      decide
  · exact isSpace_toLower char

variable {isWord : Char → Bool}

theorem demands_visible {text : String} {first : Char} {rest : List Char}
    (starts : text.toList = first :: rest) (visible : isSpace first = false) :
    Demands isWord (fun char => !isSpace char) (word text) := by
  unfold word
  rw [starts]
  apply demands_first
  apply demands_set
  intro char alike
  rw [← isSpace_fold char, of_decide_eq_true alike, isSpace_fold, visible]
  rfl

theorem demands_bounded {body : Regex} (demands : Demands isWord (fun char => !isSpace char) body) :
    Demands isWord (fun char => !isSpace char) (bounded body) :=
  demands_second _ (demands_first demands _)

/-- White space claims nothing. -/
theorem demands_claimSignal (platform : Platform) :
    Demands platform.isWord (fun char => !isSpace char) (claimSignal platform) := by
  apply demands_choice
  intro part member
  simp only [List.mem_cons, List.not_mem_nil, or_false] at member
  rcases member with rfl | rfl | rfl | rfl | rfl | rfl | rfl
  · exact demands_first (demands_visible rfl (by decide)) _
  · exact demands_second _ (demands_second _ (demands_first (demands_visible rfl (by decide)) _))
  · exact demands_bounded (demands_visible rfl (by decide))
  · exact demands_bounded (demands_first (demands_visible rfl (by decide)) _)
  · exact demands_bounded (demands_first (demands_visible rfl (by decide)) _)
  · exact demands_bounded (demands_first (demands_visible rfl (by decide)) _)
  · exact demands_bounded (demands_first (demands_visible rfl (by decide)) _)

theorem visible_of_claimLike {runtime : Runtime} {sentence : List Char}
    (claims : claimLike runtime sentence = true) : ∃ char ∈ sentence, isSpace char = false := by
  by_contra blank
  have unseen : runtime.platform.search (claimSignal runtime.platform) sentence = none := by
    apply search_of_demands (demands_claimSignal runtime.platform)
    intro char member
    rw [Bool.not_eq_false', ← Bool.not_eq_false]
    exact fun seen => blank ⟨char, member, seen⟩
  unfold claimLike at claims
  rw [unseen] at claims
  cases claims

end Blanks

section Claims

/-- What `str.lower` does to the marks that end sentences, which have no case, and to white
space around a text, over which no letter depends on another. -/
structure LowersApart (platform : Platform) : Prop where
  marks : ∀ text char, endsSentence char = true → (char ∈ platform.lower text ↔ char ∈ text)
  spaces : ∀ before text after, (∀ char ∈ before, isSpace char = true) →
    (∀ char ∈ after, isSpace char = true) →
    platform.lower (before ++ (text ++ after)) = before ++ (platform.lower text ++ after)

/-- The claim has a mark that ends sentences, in it or at its end. -/
def hasMark (claim : String) : Bool := (strip claim.toList).any endsSentence

/-- Another approved claim, without such marks, stands in the sentence. -/
def VouchedFor (runtime : Runtime) (approved : List String) (sentence : List Char) : Prop :=
  ∃ other ∈ approved, hasMark other = false ∧
    runtime.platform.lower (strip other.toList) <:+: runtime.platform.lower sentence

/-- Where a claim has marks: each of its sentences that claims something is vouched for. -/
def VouchedThroughout (runtime : Runtime) (approved : List String) (claim : String) : Prop :=
  ∀ before sentence after, Piece endsSentence claim.toList before sentence after →
    claimLike runtime sentence = true → VouchedFor runtime approved sentence

variable {runtime : Runtime} {approved : List String} {claim : String}

theorem unmarked_of_infix (lowers : LowersApart runtime.platform) {other : String}
    {sentence : List Char} (plain : ∀ char ∈ sentence, endsSentence char = false)
    (within : runtime.platform.lower (strip other.toList) <:+: runtime.platform.lower sentence) :
    hasMark other = false := by
  unfold hasMark
  rw [List.any_eq_false]
  intro char member marked
  have inside : char ∈ runtime.platform.lower (strip other.toList) :=
    (lowers.marks _ _ marked).2 member
  have listed : char ∈ sentence := (lowers.marks _ _ marked).1 (within.subset inside)
  rw [plain char listed] at marked
  cases marked

/-- A claim without marks stands whole in each of its sentences that claims something. -/
theorem stands_whole (lowers : LowersApart runtime.platform) (unmarked : hasMark claim = false)
    {before sentence after : List Char}
    (bounded : Piece endsSentence claim.toList before sentence after)
    (claims : claimLike runtime sentence = true) :
    runtime.platform.lower (strip claim.toList) <:+: runtime.platform.lower sentence := by
  obtain ⟨front, back, front_blank, back_blank, whole⟩ := exists_spaces_strip claim.toList
  rw [List.append_assoc] at whole
  obtain ⟨seen, member, visible⟩ := visible_of_claimLike claims
  have plain : ∀ char ∈ strip claim.toList, endsSentence char = false := by
    intro char inside
    rw [← Bool.not_eq_true]
    exact List.any_eq_false.1 unmarked char inside
  obtain ⟨lead, tail, sentence_eq, lead_of, tail_of⟩ :=
    bounded.covers whole plain front_blank back_blank member visible
  rw [sentence_eq, lowers.spaces lead _ tail]
  · exact ⟨lead, tail, by rw [List.append_assoc]⟩
  · exact fun char inside => front_blank char (lead_of.subset inside)
  · exact fun char inside => back_blank char (tail_of.subset inside)

theorem registered_iff :
    unregisteredClaims runtime.platform claim.toList (approved.map String.toList) = [] ↔
      ∀ before sentence after, Piece endsSentence claim.toList before sentence after →
        claimLike runtime sentence = true → ∃ other ∈ approved,
          runtime.platform.lower (strip other.toList) <:+: runtime.platform.lower sentence := by
  unfold unregisteredClaims
  dsimp only
  rw [List.filterMap_eq_nil_iff]
  have each : ∀ sentence, claimLike runtime sentence = true →
      ((if (runtime.platform.search (claimSignal runtime.platform) sentence).isNone = true then none
        else if ((approved.map String.toList).map fun claim =>
          runtime.platform.lower (strip claim)).any (contains (runtime.platform.lower sentence)) = true
        then none else some ((strip sentence).take 80)) = none ↔ ∃ other ∈ approved,
          runtime.platform.lower (strip other.toList) <:+: runtime.platform.lower sentence) := by
    intro sentence claims
    have signals : ¬ (runtime.platform.search (claimSignal runtime.platform) sentence).isNone =
        true := by
      rw [Option.isNone_iff_eq_none]
      intro unseen
      unfold claimLike at claims
      rw [unseen] at claims
      cases claims
    rw [if_neg signals, ite_eq_left_iff, List.any_map, List.any_map, List.any_eq_true]
    simp only [Function.comp_apply, contains_iff, reduceCtorEq, imp_false, not_not]
  constructor
  · intro passed before sentence after bounded claims
    have some_sentence : sentence ≠ [] := by
      rintro rfl
      cases claims
    exact (each sentence claims).1 (passed sentence (mem_split_of_piece bounded some_sentence))
  · intro vouched sentence member
    by_cases claims : claimLike runtime sentence = true
    · obtain ⟨before, after, bounded⟩ := piece_of_mem_split member
      exact (each sentence claims).2 (vouched before sentence after bounded claims)
    · have unseen : (runtime.platform.search (claimSignal runtime.platform) sentence).isNone =
          true := by
        rw [← Option.not_isSome, Bool.not_eq_true']
        exact Bool.not_eq_true _ ▸ claims
      rw [if_pos unseen]

theorem claim_registered_iff (lowers : LowersApart runtime.platform) (listed : claim ∈ approved) :
    unregisteredClaims runtime.platform claim.toList (approved.map String.toList) = [] ↔
      hasMark claim = false ∨ VouchedThroughout runtime approved claim := by
  rw [registered_iff]
  constructor
  · intro vouched
    right
    intro before sentence after bounded claims
    obtain ⟨other, there, within⟩ := vouched before sentence after bounded claims
    exact ⟨other, there, unmarked_of_infix lowers bounded.plain within, within⟩
  · rintro (unmarked | vouched) before sentence after bounded claims
    · exact ⟨claim, listed, stands_whole lowers unmarked bounded claims⟩
    · obtain ⟨other, there, -, within⟩ := vouched before sentence after bounded claims
      exact ⟨other, there, within⟩

/-- The asset can be added to the configuration. -/
def Registrable (about : AboutUs runtime) (asset : AssetSpec) : Prop :=
  ∃ extended : AboutUs runtime, extended.assets = asset :: about.assets ∧
    extended.claimsMode = about.claimsMode ∧ extended.approvedClaims = about.approvedClaims

theorem registrable_iff {about : AboutUs runtime} (allowlist : about.claimsMode = .allowlist)
    {asset : AssetSpec} (fresh : asset.id ∉ about.assets.map AssetSpec.id)
    (permitted : forbiddenHits runtime.platform asset.summary.toList [] = .ok []) :
    Registrable about asset ↔ unregisteredClaims runtime.platform asset.summary.toList
      (about.approvedClaims.map String.toList) = [] := by
  constructor
  · rintro ⟨extended, assets, mode, claims⟩
    rw [← claims]
    apply extended.assets_registered (mode.trans allowlist) asset
    rw [assets]
    exact List.mem_cons_self
  · intro registered
    refine ⟨{ about with
      assets := asset :: about.assets
      assets_distinct := List.nodup_cons.2 ⟨fresh, about.assets_distinct⟩
      assets_linted := ?_
      assets_registered := ?_ }, rfl, rfl, rfl⟩
    · intro other member
      rcases List.mem_cons.1 member with rfl | earlier
      · exact permitted
      · exact about.assets_linted other earlier
    · intro mode other member
      rcases List.mem_cons.1 member with rfl | earlier
      · exact registered
      · exact about.assets_registered mode other earlier

/-- An approved claim gets through by itself, as a text and as the summary of an asset,
where it has no mark that ends sentences, or where other claims vouch for its sentences. -/
theorem approved_claim_usable_iff (runtime : Runtime) (lowers : LowersApart runtime.platform)
    (about : AboutUs runtime) (allowlist : about.claimsMode = .allowlist) (claim : String)
    (listed : claim ∈ about.approvedClaims) :
    (unregisteredClaims runtime.platform claim.toList (about.approvedClaims.map String.toList) = [] ↔
      hasMark claim = false ∨ VouchedThroughout runtime about.approvedClaims claim) ∧
    ∀ asset : AssetSpec, asset.summary = claim → asset.id ∉ about.assets.map AssetSpec.id →
      forbiddenHits runtime.platform asset.summary.toList [] = .ok [] →
      (Registrable about asset ↔
        hasMark claim = false ∨ VouchedThroughout runtime about.approvedClaims claim) := by
  have registered : unregisteredClaims runtime.platform claim.toList
      (about.approvedClaims.map String.toList) = [] ↔
        hasMark claim = false ∨ VouchedThroughout runtime about.approvedClaims claim :=
    claim_registered_iff lowers listed
  refine ⟨registered, ?_⟩
  intro asset summary fresh permitted
  rw [registrable_iff allowlist fresh permitted, summary]
  exact registered

theorem toLower_of_isSpace {char : Char} (blank : isSpace char = true) : char.toLower = char := by
  apply toLower_eq_of_not_upper
  intro upper
  unfold isSpace at blank
  simp only [Bool.or_eq_true, Bool.and_eq_true, decide_eq_true_eq] at blank
  omega

theorem lowersApart_ascii (digests : List (List Char × String)) :
    LowersApart (Platform.ascii digests) where
  marks := by
    intro text char marked
    have low : char.toNat < 65 := by
      simp only [endsSentence, Bool.or_eq_true, decide_eq_true_eq] at marked
      rcases marked with ((rfl | rfl) | rfl) | rfl <;> decide
    change char ∈ text.map Char.toLower ↔ char ∈ text
    simp only [List.mem_map, toLower_eq_iff low, exists_eq_right]
  spaces := by
    intro before text after front back
    have kept : ∀ spaces : List Char, (∀ char ∈ spaces, isSpace char = true) →
        spaces.map Char.toLower = spaces := by
      intro spaces blank
      nth_rewrite 2 [← List.map_id spaces]
      apply List.map_congr_left
      intro char member
      exact toLower_of_isSpace (blank char member)
    change (before ++ (text ++ after)).map Char.toLower = before ++ (text.map Char.toLower ++ after)
    rw [List.map_append, List.map_append, kept before front, kept after back]

/-- A configuration in allowlist mode: the price of one of its claims has a point. -/
def priceAbout : AboutUs plainRuntime :=
  { acmeConfig.aboutUs with
    claimsMode := .allowlist
    approvedClaims := ["From $9.99 per month", "Free for a month"]
    claims_some := by decide
    claims_long := by decide
    assets_registered := fun _ _ member => absurd member List.not_mem_nil }

def priceAsset : AssetSpec where
  id := "prices"
  url := "https://acme.com/prices"
  summary := "From $9.99 per month"
  id_plain := by decide
  url_secure := by decide
  summary_long := by decide

theorem priced_claim_refused :
    priceAbout.claimsMode = .allowlist ∧ priceAsset.summary ∈ priceAbout.approvedClaims ∧
    unregisteredClaims plainRuntime.platform priceAsset.summary.toList
      (priceAbout.approvedClaims.map String.toList) = ["From $9".toList, "99 per month".toList] ∧
    ¬ Registrable priceAbout priceAsset := by
  have flagged : unregisteredClaims plainRuntime.platform priceAsset.summary.toList
      (priceAbout.approvedClaims.map String.toList) = ["From $9".toList, "99 per month".toList] := by
    decide +kernel
  refine ⟨rfl, List.mem_cons_self, flagged, ?_⟩
  have fresh : priceAsset.id ∉ priceAbout.assets.map AssetSpec.id := List.not_mem_nil
  have permitted : forbiddenHits plainRuntime.platform priceAsset.summary.toList [] = .ok [] := by
    decide +kernel
  rw [registrable_iff rfl fresh permitted, flagged]
  exact List.cons_ne_nil _ _

theorem plain_claim_usable :
    hasMark "Free for a month" = false ∧
    unregisteredClaims plainRuntime.platform "Free for a month".toList
      (priceAbout.approvedClaims.map String.toList) = [] := by
  have unmarked : hasMark "Free for a month" = false := by
    decide +kernel
  refine ⟨unmarked, ?_⟩
  exact (approved_claim_usable_iff plainRuntime (lowersApart_ascii []) priceAbout rfl
    "Free for a month" (by decide)).1.2 (Or.inl unmarked)

end Claims

end OpenReachout
