import OpenReachout.Outreach.Aliases
import OpenReachout.Text.Idna

/-!
# When a canonical address is its own canonical form

The form of an address is checked before its domain is encoded. What the encoding makes of
the domain decides whether the result would pass the check again.
-/

namespace OpenReachout

open Text Text.Platform

set_option autoImplicit false

section Canonicalization

variable {platform : Platform} {codec : Idna} {email canonical : String}

/-- What `str.lower` does: it lowers ASCII letters one by one, leaves lowered text as it is,
and puts no white space at the end of a text. -/
structure LowerLaws (platform : Platform) : Prop where
  ascii : ∀ text, Ascii text → platform.lower text = text.map Char.toLower
  settled : ∀ text, (∀ char ∈ text, ∃ other, char ∈ platform.lower other) →
    platform.lower text = text
  ends : ∀ text, (∀ front char, text = front ++ [char] → isSpace char = false) →
    ∀ front char, platform.lower text = front ++ [char] → isSpace char = false

/-- The ASCII form of the domain of an address. -/
def asciiDomain (platform : Platform) (email : String) : List Char :=
  (platform.idna (rpartition '@' (platform.lower (strip email.toList))).2).getD []

/-- The ASCII form of a domain could be the domain of an address itself: it has no sign and
no white space, and no label before its last is empty. -/
structure PlainHost (domain : List Char) : Prop where
  unsigned : '@' ∉ domain
  visible : Visible domain
  filled : Idna.Filled domain

/-- The result is its own canonical form, has one sign, no suffix in its local part and no
capital letter. -/
structure Settles (platform : Platform) (canonical : String) : Prop where
  again : canonicalize platform canonical = .ok canonical
  one_sign : canonical.toList.count '@' = 1
  unsuffixed : '+' ∉ (rpartition '@' canonical.toList).1
  small : ∀ char ∈ canonical.toList, isCapital char = false

section Lowered

theorem isCapital_iff {char : Char} :
    isCapital char = true ↔ 65 ≤ char.toNat ∧ char.toNat ≤ 90 := by
  unfold isCapital
  rw [Bool.and_eq_true, decide_eq_true_eq, decide_eq_true_eq]

theorem uncapital_of_lowered (laws : LowerLaws platform) {text : List Char} {char : Char}
    (member : char ∈ platform.lower text) : isCapital char = false := by
  rw [← Bool.not_eq_true]
  intro capital
  have upper := isCapital_iff.1 capital
  have ascii : Ascii [char] := by
    intro other inside
    rw [List.mem_singleton.1 inside]
    omega
  have settled := laws.settled [char] fun other inside =>
    ⟨text, (List.mem_singleton.1 inside).symm ▸ member⟩
  rw [laws.ascii _ ascii, List.map_singleton] at settled
  have same : char.toLower = char := List.head_eq_of_cons_eq settled
  have shifted := toNat_toLower char
  rw [if_pos upper, same] at shifted
  omega

theorem lowered_of_small (laws : LowerLaws platform) {char : Char} (small : isSmall char = true) :
    ∃ other, char ∈ platform.lower other := by
  unfold isSmall at small
  rw [Bool.and_eq_true, Bool.not_eq_true', ← Bool.not_eq_true, isCapital_iff] at small
  refine ⟨[char], ?_⟩
  rw [laws.ascii, List.map_singleton, toLower_eq_of_not_upper small.2]
  · exact List.mem_singleton_self char
  · intro other inside
    rw [List.mem_singleton.1 inside]
    exact of_decide_eq_true small.1

theorem lower_ended (laws : LowerLaws platform) (email : String) (front : List Char) (char : Char)
    (ends : platform.lower (strip email.toList) = front ++ [char]) : isSpace char = false :=
  laws.ends _ (fun _ _ stripped => strip_last stripped) front char ends

end Lowered

section Mailboxes

/-- The domain is one of the two of Gmail. -/
def isGoogle (domain : List Char) : Bool :=
  domain = "gmail.com".toList || domain = "googlemail.com".toList

theorem mailboxOf_google (whole : List Char) {domain : List Char} (google : isGoogle domain = true) :
    mailboxOf whole domain =
      ((whole.takeWhile fun char => char != '+').filter fun char => char != '.',
        "gmail.com".toList) := by
  unfold mailboxOf
  exact if_pos google

theorem mailboxOf_other (whole : List Char) {domain : List Char}
    (other : ¬ isGoogle domain = true) :
    mailboxOf whole domain = (whole.takeWhile fun char => char != '+', domain) := by
  unfold mailboxOf
  exact if_neg other

theorem takeWhile_plus_self {text : List Char} (plain : '+' ∉ text) :
    (text.takeWhile fun char => char != '+') = text := by
  have kept : ∀ char ∈ text, (char != '+') = true := by
    intro char member
    rw [bne_iff_ne]
    rintro rfl
    exact plain member
  have whole : (text ++ []).takeWhile (fun char => char != '+') =
      text ++ [].takeWhile fun char => char != '+' := List.takeWhile_append_of_pos kept
  rw [List.append_nil, List.takeWhile_nil, List.append_nil] at whole
  exact whole

theorem bare_unsuffixed (whole domain : List Char) : '+' ∉ (mailboxOf whole domain).1 := by
  have cut : '+' ∉ whole.takeWhile fun char => char != '+' := by
    intro member
    have every : (whole.takeWhile fun char => char != '+').all (fun char => char != '+') = true :=
      List.all_takeWhile
    exact absurd (List.all_eq_true.1 every '+' member) (by decide)
  by_cases google : isGoogle domain = true
  · rw [mailboxOf_google whole google]
    exact fun member => cut (List.mem_of_mem_filter member)
  · rw [mailboxOf_other whole google]
    exact cut

/-- What is written out is not shortened again. -/
theorem mailboxOf_mailboxOf (whole domain : List Char) :
    mailboxOf (mailboxOf whole domain).1 (mailboxOf whole domain).2 = mailboxOf whole domain := by
  have unsuffixed := bare_unsuffixed whole domain
  by_cases google : isGoogle domain = true
  · rw [mailboxOf_google whole google] at unsuffixed ⊢
    have google_again : isGoogle "gmail.com".toList = true := by decide
    rw [mailboxOf_google _ google_again, takeWhile_plus_self unsuffixed, List.filter_filter]
    simp only [Bool.and_self]
  · rw [mailboxOf_other whole google] at unsuffixed ⊢
    rw [mailboxOf_other _ google, takeWhile_plus_self unsuffixed]

theorem plainHost_gmail : PlainHost "gmail.com".toList where
  unsigned := by decide
  visible := gmail_visible
  filled := by
    unfold Idna.Filled
    decide

theorem encoded_gmail : Idna.Encoded "gmail.com".toList where
  small := List.all_eq_true.1 (by decide)
  short := by decide
  dotted := ⟨"gmail".toList, "com".toList, by decide, by decide, by decide⟩

end Mailboxes

/-- What is known of an accepted address: the two parts that are written out. -/
structure AcceptedParts (platform : Platform) (email canonical : String) (bare host : List Char) :
    Prop where
  whole : canonical.toList = bare ++ '@' :: host
  filled : bare ≠ []
  lowered : ∀ char ∈ bare, ∃ other, char ∈ platform.lower other
  visible : Visible bare
  unsigned : '@' ∉ bare
  unsuffixed : '+' ∉ bare
  encoded : Idna.Encoded host
  stays : mailboxOf bare host = (bare, host)
  domain : host = asciiDomain platform email ∨
    host = "gmail.com".toList ∧ PlainHost (asciiDomain platform email)

theorem accepted_parts (lawful : codec.Lawful) (laws : LowerLaws platform)
    (idna : platform.idna = codec.encode) (accepted : canonicalize platform email = .ok canonical) :
    ∃ bare host, AcceptedParts platform email canonical bare host := by
  obtain ⟨name, domain, encoded, shaped, encodes, left, form⟩ :=
    (canonicalize_eq_ok (lower_ended laws email)).1 accepted
  have lowered : ∀ char ∈ name ++ '@' :: domain, char ∈ platform.lower (strip email.toList) := by
    rw [shaped.split]
    exact fun char member => member
  have unsigned : '@' ∉ domain := fun member => shaped.plain (List.mem_append_right _ member)
  have host : asciiDomain platform email = encoded := by
    unfold asciiDomain
    rw [shaped.split, rpartition_append unsigned, encodes]
    rfl
  obtain ⟨first, second, some_first, some_second, dotted⟩ := shaped.dotted
  have facts : Idna.Encoded encoded := by
    rw [idna] at encodes
    refine Idna.encoded_of_encode lawful ?_ some_first some_second dotted encodes
    intro char member
    exact uncapital_of_lowered laws
      (lowered char (List.mem_append_right _ (List.mem_cons_of_mem _ member)))
  have inside : ∀ char ∈ (mailboxOf name encoded).1, char ∈ name :=
    fun char member => bare_subset member
  refine ⟨(mailboxOf name encoded).1, (mailboxOf name encoded).2, form, left, ?_, ?_, ?_,
    bare_unsuffixed name encoded, ?_, mailboxOf_mailboxOf name encoded, ?_⟩
  · exact fun char member => ⟨_, lowered char (List.mem_append_left _ (inside char member))⟩
  · exact fun char member => shaped.shown char (List.mem_append_left _ (inside char member))
  · exact fun member => shaped.plain (List.mem_append_left _ (inside '@' member))
  · rcases domain_of_mailbox name encoded with same | gmail
    · rw [same]
      exact facts
    · rw [gmail]
      exact encoded_gmail
  · rw [host]
    by_cases google : isGoogle encoded = true
    · right
      constructor
      · rw [mailboxOf_google name google]
      · unfold isGoogle at google
        rw [Bool.or_eq_true, decide_eq_true_eq, decide_eq_true_eq] at google
        rcases google with rfl | rfl
        · exact plainHost_gmail
        · refine ⟨by decide, googlemail_visible, ?_⟩
          unfold Idna.Filled
          decide
    · left
      rw [mailboxOf_other name google]

variable {bare host : List Char}

/-- Every character of the result is as lowered text has it. -/
theorem lowered_of_accepted (laws : LowerLaws platform)
    (parts : AcceptedParts platform email canonical bare host) :
    ∀ char ∈ canonical.toList, ∃ other, char ∈ platform.lower other := by
  rw [parts.whole]
  intro char member
  rcases List.mem_append.1 member with inside | inside
  · exact parts.lowered char inside
  · rcases List.mem_cons.1 inside with rfl | inside
    · exact lowered_of_small laws (by decide)
    · exact lowered_of_small laws (parts.encoded.small char inside)

theorem settles_of_plainHost (laws : LowerLaws platform) (idna : platform.idna = codec.encode)
    (parts : AcceptedParts platform email canonical bare host) (plain : PlainHost host) :
    Settles platform canonical where
  again := by
    have shown : Visible canonical.toList := by
      rw [parts.whole]
      exact visible_append.2 ⟨parts.visible, visible_cons.2 ⟨rfl, plain.visible⟩⟩
    have same : platform.lower (strip canonical.toList) = canonical.toList := by
      rw [strip_eq_self shown]
      exact laws.settled _ (lowered_of_accepted laws parts)
    have shaped : Shaped (platform.lower (strip canonical.toList)) bare host := by
      refine ⟨same.trans parts.whole, parts.filled, parts.encoded.dotted, ?_, ?_⟩
      · exact visible_append.2 ⟨parts.visible, plain.visible⟩
      · rw [List.mem_append, not_or]
        exact ⟨parts.unsigned, plain.unsigned⟩
    have encodes : platform.idna host = some host := by
      rw [idna]
      exact (Idna.encode_of_encoded parts.encoded).2 plain.filled
    refine (canonicalize_eq_ok (lower_ended laws canonical)).2
      ⟨bare, host, host, shaped, encodes, ?_, ?_⟩
    · rw [parts.stays]
      exact parts.filled
    · rw [parts.stays]
      exact parts.whole
  one_sign := by
    rw [parts.whole, List.count_append, List.count_cons_self,
      List.count_eq_zero_of_not_mem parts.unsigned, List.count_eq_zero_of_not_mem plain.unsigned]
  unsuffixed := by
    rw [parts.whole, rpartition_append plain.unsigned]
    exact parts.unsuffixed
  small := by
    intro char member
    obtain ⟨other, lowered⟩ := lowered_of_accepted laws parts char member
    exact uncapital_of_lowered laws lowered

theorem plainHost_of_settles (laws : LowerLaws platform) (idna : platform.idna = codec.encode)
    (parts : AcceptedParts platform email canonical bare host) (settles : Settles platform canonical) :
    PlainHost host := by
  have unsigned : '@' ∉ host := by
    have count := settles.one_sign
    rw [parts.whole, List.count_append, List.count_cons_self] at count
    exact List.count_eq_zero.1 (by omega)
  obtain ⟨name, domain, encoded, shaped, encodes, -, form⟩ :=
    (canonicalize_eq_ok (lower_ended laws canonical)).1 settles.again
  have same : platform.lower (strip canonical.toList) = strip canonical.toList := by
    apply laws.settled
    intro char member
    obtain ⟨before, after, -, -, whole⟩ := exists_spaces_strip canonical.toList
    apply lowered_of_accepted laws parts
    rw [whole]
    exact List.mem_append_left _ (List.mem_append_right _ member)
  rw [same] at shaped
  -- the host is the domain that is read the second time, before what was stripped behind it
  obtain ⟨before, after, -, blank, whole⟩ := exists_spaces_strip canonical.toList
  have domain_unsigned : '@' ∉ domain := fun member => shaped.plain (List.mem_append_right _ member)
  have behind_unsigned : '@' ∉ domain ++ after := by
    rw [List.mem_append, not_or]
    refine ⟨domain_unsigned, fun member => ?_⟩
    exact absurd (blank '@' member) (by decide)
  have host_eq : host = domain ++ after := by
    have split := whole
    rw [shaped.split, parts.whole] at split
    have regrouped : before ++ (name ++ '@' :: domain) ++ after =
        (before ++ name) ++ '@' :: (domain ++ after) := by
      simp
    rw [regrouped] at split
    have cut := congrArg (rpartition '@') split
    rw [rpartition_append unsigned, rpartition_append behind_unsigned] at cut
    exact congrArg Prod.snd cut
  have domain_ascii : ∀ char ∈ domain, isAscii char = true := by
    intro char member
    have small := parts.encoded.small char (host_eq ▸ List.mem_append_left _ member)
    unfold isSmall at small
    rw [Bool.and_eq_true] at small
    exact small.1
  rw [idna] at encodes
  obtain rfl := Idna.encode_ascii domain_ascii encodes
  have written_out : host = (mailboxOf name encoded).2 := by
    have split := form
    rw [parts.whole] at split
    have named_unsigned : '@' ∉ (mailboxOf name encoded).2 := by
      rcases domain_of_mailbox name encoded with kept | gmail
      · rw [kept]
        exact domain_unsigned
      · rw [gmail]
        decide
    have cut := congrArg (rpartition '@') split
    unfold written at cut
    rw [rpartition_append unsigned, rpartition_append named_unsigned] at cut
    exact congrArg Prod.snd cut
  rcases domain_of_mailbox name encoded with kept | gmail
  · rw [kept] at written_out
    rw [written_out]
    refine ⟨domain_unsigned, fun char member => shaped.shown char (List.mem_append_right _ member),
      ?_⟩
    exact (Idna.encode_of_encoded (written_out ▸ parts.encoded)).1 encodes
  · rw [written_out, gmail]
    exact plainHost_gmail

/-- What `canonicalize` returns is its own canonical form, and has the form that is promised,
exactly where the ASCII form of the domain has neither sign nor white space nor an empty
label before its last. -/
theorem canonicalize_settles_iff (platform : Platform) (codec : Idna) (lawful : codec.Lawful)
    (laws : LowerLaws platform) (idna : platform.idna = codec.encode) (email canonical : String)
    (accepted : canonicalize platform email = .ok canonical) :
    Settles platform canonical ↔ PlainHost (asciiDomain platform email) := by
  obtain ⟨bare, host, parts⟩ := accepted_parts lawful laws idna accepted
  constructor
  · intro settles
    have plain := plainHost_of_settles laws idna parts settles
    rcases parts.domain with same | ⟨-, gmail⟩
    · rw [← same]
      exact plain
    · exact gmail
  · intro plain
    rcases parts.domain with same | ⟨gmail, -⟩
    · exact settles_of_plainHost laws idna parts (same ▸ plain)
    · exact settles_of_plainHost laws idna parts (gmail ▸ plainHost_gmail)

/-- A codec that prepares the fullwidth commercial at, as the compatibility mappings do. -/
def signIdna : Idna where
  nameprep label := some (label.map fun char => if char = '\uFF20' then '@' else char.toLower)
  punycode text := text.filter isSmall

def signPlatform : Platform := { Platform.ascii [] with idna := signIdna.encode }

theorem uncapital_toLower (char : Char) : isCapital char.toLower = false := by
  rw [← Bool.not_eq_true, isCapital_iff, toNat_toLower]
  split_ifs <;> omega

theorem lawful_signIdna : signIdna.Lawful where
  folds := by
    intro label prepared mapped char member
    obtain rfl := Option.some.inj mapped
    obtain ⟨other, -, rfl⟩ := List.mem_map.1 member
    split_ifs
    · decide
    · exact uncapital_toLower other
  encodes := by
    intro text _ char member
    exact List.of_mem_filter member

theorem lowerLaws_sign : LowerLaws signPlatform where
  ascii := fun text _ => rfl
  settled := by
    intro text lowered
    change text.map Char.toLower = text
    refine (List.map_congr_left ?_).trans (List.map_id text)
    intro char member
    obtain ⟨other, inside⟩ := lowered char member
    obtain ⟨old, -, rfl⟩ := List.mem_map.1 inside
    exact toLower_toLower old
  ends := by
    intro text ended front char lowered
    change text.map Char.toLower = front ++ [char] at lowered
    rcases List.eq_nil_or_concat text with rfl | ⟨start, last, rfl⟩
    · exact absurd lowered.symm (List.append_ne_nil_of_right_ne_nil _ (List.cons_ne_nil _ _))
    · rw [List.concat_eq_append, List.map_append] at lowered
      have same : last.toLower = char :=
        List.head_eq_of_cons_eq (List.append_inj' lowered rfl).2
      rw [← same, isSpace_toLower]
      exact ended start last List.concat_eq_append

/-- A sign that the preparation of a label makes is there for the second reading only. -/
theorem prepared_sign_unsettles :
    canonicalize signPlatform "ana@b\uFF20c.com" = .ok "ana@b@c.com" ∧
    (canonicalize signPlatform "ana@b@c.com").toOption = none ∧
    ¬ Settles signPlatform "ana@b@c.com" := by
  have refused : (canonicalize signPlatform "ana@b@c.com").toOption = none := by
    decide +kernel
  refine ⟨by decide +kernel, refused, ?_⟩
  intro settles
  rw [settles.again] at refused
  cases refused

theorem tagged_address_settles :
    canonicalize signPlatform " Ana+List@Example.com" = .ok "ana@example.com" ∧
    Settles signPlatform "ana@example.com" := by
  have accepted : canonicalize signPlatform " Ana+List@Example.com" = .ok "ana@example.com" := by
    decide +kernel
  have domain : asciiDomain signPlatform " Ana+List@Example.com" = "example.com".toList := by
    decide +kernel
  refine ⟨accepted, (canonicalize_settles_iff signPlatform signIdna lawful_signIdna lowerLaws_sign
    rfl " Ana+List@Example.com" "ana@example.com" accepted).2 ?_⟩
  rw [domain]
  refine ⟨by decide, every_of_all (by decide), ?_⟩
  unfold Idna.Filled
  decide

end Canonicalization

end OpenReachout
