import Mathlib.Data.List.Forall2
import Mathlib.Data.List.Infix
import CoinSpend.Log
import CoinSpend.Proofs.Text

/-! What a log line tells of the values in it. Of a secret it tells the number of characters alone, of an address and of a
hash the ends. Values that agree in this much give the same line. -/
namespace CoinSpend.Log

namespace Redaction

def secretParts : List String :=
  ["private", "secret", "seed", "mnemonic", "passphrase", "password", "xprv", "wif"]

def addressParts : List String := ["address", "recipient", "pubkey", "public_key", "xpub"]

def digestParts : List String := ["txid", "tx_id", "hash", "signature", "preimage", "payload"]

/-- One of the parts stands in the key, whatever the case of its letters. -/
def Mentions (parts : List String) (key : String) : Prop :=
  ∃ part ∈ parts, part.toList <:+: key.toList.flatMap lowered

/-- All that is shown of a text are so many characters at either end; four or more between them are not. -/
def ShowsEnds (text : List Char) (head tail : Nat) (shown : String) : Prop :=
  ∃ front middle back, text = front ++ middle ++ back ∧ front.length = head ∧ 4 ≤ middle.length ∧ back.length = tail ∧
    shown = String.ofList front ++ "..." ++ String.ofList back

/-- How many characters are shown at the head of an address: four beyond the first colon, or six. -/
def AddressHead (text : List Char) (head : Nat) : Prop :=
  (':' ∉ text ∧ head = 6) ∨
    ∃ before after, text = before ++ ':' :: after ∧ ':' ∉ before ∧ head = before.length + 5

/-- The characters at both ends of a text. -/
def bothEnds (text : List Char) (head tail : Nat) : List Char × List Char :=
  (text.take head, text.drop (text.length - tail))

/-- Two texts of one length with the first colon in one place and the same characters where an address is shown. -/
structure AlikeAddresses (text other : List Char) : Prop where
  length : text.length = other.length
  colon : text.idxOf? ':' = other.idxOf? ':'
  ends : bothEnds text (headLength text) 4 = bothEnds other (headLength other) 4

/-- Two long texts with the same characters where a hash is shown. -/
structure AlikeDigests (text other : List Char) : Prop where
  long : 19 < text.length
  otherLong : 19 < other.length
  ends : bothEnds text 10 6 = bothEnds other 10 6

/-- Two values of a field that are not told apart by what is shown under its key. -/
inductive Alike (key value other : String) : Prop
  | same (same : value = other)
  | secret (named : Mentions secretParts key) (length : value.length = other.length)
  | address (named : Mentions addressParts key) (free : ¬ Mentions secretParts key)
      (alike : AlikeAddresses (Text.trimmed value.toList) (Text.trimmed other.toList))
  | digest (named : Mentions digestParts key) (free : ¬ Mentions secretParts key) (plain : ¬ Mentions addressParts key)
      (alike : AlikeDigests (Text.trimmed value.toList) (Text.trimmed other.toList))

variable {key value other : String} {parts : List String} {part text others : List Char} {head tail : Nat}

theorem occurs_iff : occurs part text = true ↔ part <:+: text := by
  induction text with
  | nil => rw [occurs, List.isEmpty_iff, List.infix_nil]
  | cons c rest ih => rw [occurs, Bool.or_eq_true, List.isPrefixOf_iff_prefix, ih, List.infix_cons_iff]

theorem any_occurs_iff :
    (parts.any fun part => occurs part.toList (key.toList.flatMap lowered)) = true ↔ Mentions parts key := by
  simp only [List.any_eq_true, occurs_iff, Mentions]

instance : Decidable (Mentions parts key) := decidable_of_iff _ any_occurs_iff

/-- The rules are tried in order: secrets win over addresses, and these over hashes. -/
theorem ofKey_eq (key : String) : ofKey key =
    if Mentions secretParts key then secret
    else if Mentions addressParts key then address
    else if Mentions digestParts key then digest else plain := by
  have listed : rules = [(secretParts, secret), (addressParts, address), (digestParts, digest)] := rfl
  simp only [ofKey, listed, List.find?_cons, List.find?_nil, ← any_occurs_iff]
  cases secretParts.any fun part => occurs part.toList (key.toList.flatMap lowered) with
  | true => rfl
  | false =>
    cases addressParts.any fun part => occurs part.toList (key.toList.flatMap lowered) with
    | true => rfl
    | false => cases digestParts.any fun part => occurs part.toList (key.toList.flatMap lowered) <;> rfl

theorem ofKey_secret (named : Mentions secretParts key) : ofKey key = secret := by
  rw [ofKey_eq, if_pos named]

theorem ofKey_address (named : Mentions addressParts key) (free : ¬ Mentions secretParts key) : ofKey key = address := by
  rw [ofKey_eq, if_neg free, if_pos named]

theorem ofKey_digest (named : Mentions digestParts key) (free : ¬ Mentions secretParts key)
    (plain : ¬ Mentions addressParts key) : ofKey key = digest := by
  rw [ofKey_eq, if_neg free, if_neg plain, if_pos named]

theorem lowered_toLower (c : Char) : lowered c.toLower = lowered c := by
  by_cases upper : c.isUpper = true
  · have letters : ∀ code ∈ List.range 91, lowered (Char.ofNat code).toLower = lowered (Char.ofNat code) := by decide
    have letter := letters c.toNat (List.mem_range.mpr (Nat.lt_succ_of_le (Text.isUpper_iff.mp upper).2))
    rwa [Char.ofNat_toNat] at letter
  · rw [Bool.not_eq_true] at upper
    rw [Text.toLower_eq_self_iff.mpr upper]

theorem ofKey_lower (key : String) : ofKey (Text.lower key) = ofKey key := by
  have letters : (Text.lower key).toList.flatMap lowered = key.toList.flatMap lowered := by
    rw [Text.lower, String.toList_ofList, Text.lowered, List.flatMap_map]
    simp only [lowered_toLower]
  rw [ofKey, ofKey, letters]

theorem addressHead (text : List Char) : AddressHead text (headLength text) := by
  unfold headLength
  split
  · rename_i colon found
    obtain ⟨inside, here, first⟩ := List.idxOf?_eq_some_iff.mp found
    refine .inr ⟨text.take colon, text.drop (colon + 1), ?_, fun member => ?_, ?_⟩
    · rw [← here, List.getElem_cons_drop, List.take_append_drop]
    · obtain ⟨index, below, same⟩ := List.mem_take_iff_getElem.mp member
      exact first index (by omega) same
    · rw [List.length_take]
      omega
  · rename_i none
    exact .inl ⟨List.idxOf?_eq_none_iff.mp none, rfl⟩

theorem ends?_of_short (short : text.length ≤ head + tail + 3) : ends? text head tail = none := if_pos short

theorem ends?_of_long (long : head + tail + 3 < text.length) : ends? text head tail =
    some (String.ofList (text.take head) ++ "..." ++ String.ofList (text.drop (text.length - tail))) :=
  if_neg (Nat.not_le_of_lt long)

theorem ends?_congr (length : text.length = others.length) (ends : bothEnds text head tail = bothEnds others head tail) :
    ends? text head tail = ends? others head tail := by
  obtain ⟨front, back⟩ := Prod.mk.inj ends
  rw [ends?, ends?, length, front, ← length, back, length]

theorem showsEnds_of_long (long : head + tail + 3 < text.length) : ShowsEnds text head tail
    (String.ofList (text.take head) ++ "..." ++ String.ofList (text.drop (text.length - tail))) := by
  have behind : text.drop (text.length - tail) = (text.drop head).drop ((text.drop head).length - tail) := by
    rw [List.drop_drop, List.length_drop]
    congr 1
    omega
  rw [behind]
  refine ⟨_, (text.drop head).take ((text.drop head).length - tail), _, ?_, ?_, ?_, ?_, rfl⟩
  · rw [List.append_assoc, List.take_append_drop, List.take_append_drop]
  · rw [List.length_take]
    omega
  · rw [List.length_take, List.length_drop]
    omega
  · rw [List.length_drop, List.length_drop]
    omega

/-- The empty text needs no case of its own: none of its characters are shown, and it has none. -/
theorem shownAddress_eq (value : String) : shownAddress value =
    (ends? (Text.trimmed value.toList) (headLength (Text.trimmed value.toList)) 4).getD
      (hidden (Text.trimmed value.toList).length) := by
  unfold shownAddress
  generalize Text.trimmed value.toList = text
  cases text with
  | nil => rfl
  | cons c rest => rfl

theorem shownDigest_of_long (long : 19 < (Text.trimmed value.toList).length) : shownDigest value =
    String.ofList ((Text.trimmed value.toList).take 10) ++ "..." ++
      String.ofList ((Text.trimmed value.toList).drop ((Text.trimmed value.toList).length - 6)) := by
  unfold shownDigest
  generalize Text.trimmed value.toList = text at long
  cases text with
  | nil => cases long
  | cons c rest =>
    have filled : ¬ (c :: rest).isEmpty := Bool.false_ne_true
    rw [if_neg filled, ends?_of_long long, Option.getD_some]

theorem AlikeAddresses.shown_eq (alike : AlikeAddresses (Text.trimmed value.toList) (Text.trimmed other.toList)) :
    shownAddress value = shownAddress other := by
  obtain ⟨length, colon, ends⟩ := alike
  have heads : headLength (Text.trimmed value.toList) = headLength (Text.trimmed other.toList) := by
    rw [headLength, headLength, colon]
  rw [heads] at ends
  rw [shownAddress_eq, shownAddress_eq, heads, ends?_congr length ends, length]

theorem AlikeDigests.shown_eq (alike : AlikeDigests (Text.trimmed value.toList) (Text.trimmed other.toList)) :
    shownDigest value = shownDigest other := by
  obtain ⟨front, back⟩ := Prod.mk.inj alike.ends
  rw [shownDigest_of_long alike.long, shownDigest_of_long alike.otherLong, front, back]

theorem Alike.apply_eq (alike : Alike key value other) : (ofKey key).apply value = (ofKey key).apply other := by
  cases alike with
  | same same => rw [same]
  | secret named length => rw [ofKey_secret named, apply, apply, length]
  | address named free alike => rw [ofKey_address named free, apply, apply, alike.shown_eq]
  | digest named free plain alike => rw [ofKey_digest named free plain, apply, apply, alike.shown_eq]

end Redaction

namespace Entry

open Redaction

/-- The entry with further fields, one after another, each redacted as its key says. -/
def withFields (entry : Entry) (fields : List (String × String)) : Entry :=
  fields.foldl (fun entry (key, value) => entry.field key value) entry

variable {entry : Entry} {fields others : List (String × String)}

theorem fields_withFields (entry : Entry) (fields : List (String × String)) : (entry.withFields fields).fields =
    entry.fields ++ fields.map fun (key, value) => (key, (ofKey key).apply value) := by
  induction fields generalizing entry with
  | nil => exact (List.append_nil _).symm
  | cons next fields ih =>
    obtain ⟨key, value⟩ := next
    rw [List.map_cons, List.append_cons]
    exact ih (entry.field key value)

theorem field_congr {key value other : String} (alike : Alike key value other) :
    entry.field key value = entry.field key other := by
  rw [field, field, add, add, alike.apply_eq]

/-- An entry keeps of its fields what is shown of them and nothing else. -/
theorem withFields_congr (alike : List.Forall₂ (fun field other => field.1 = other.1 ∧
    Alike field.1 field.2 other.2) fields others) : entry.withFields fields = entry.withFields others := by
  induction alike generalizing entry with
  | nil => rfl
  | @cons next other fields others first _ ih =>
    obtain ⟨key, value⟩ := next
    obtain ⟨_, replaced⟩ := other
    obtain ⟨rfl, alike⟩ := first
    exact (congrArg (withFields · fields) (field_congr alike)).trans ih

/-- A log line tells no more than its keys allow. Of each field it has what is shown of the value, so values that are alike
under their keys give the same line. A secret, whatever else its key mentions, is shown as its number of characters. An
address is shown by a head, which ends behind its colon, and its last four characters, and a long hash by its first ten
and last six; then four characters or more are left out between them. A short address is shown as its length. -/
theorem render_hides (entry : Entry) (fields : List (String × String)) :
    (entry.withFields fields).fields =
      entry.fields ++ fields.map (fun (key, value) => (key, (ofKey key).apply value)) ∧
    (∀ others, List.Forall₂ (fun field other => field.1 = other.1 ∧ Alike field.1 field.2 other.2) fields others →
      (entry.withFields fields).render = (entry.withFields others).render) ∧
    (∀ key, ofKey (Text.lower key) = ofKey key) ∧
    (∀ key value, Mentions secretParts key → (ofKey key).apply value = hidden value.length) ∧
    (∀ key value, Mentions addressParts key → ¬ Mentions secretParts key →
      ∃ head, AddressHead (Text.trimmed value.toList) head ∧
        ((Text.trimmed value.toList).length ≤ head + 7 →
          (ofKey key).apply value = hidden (Text.trimmed value.toList).length) ∧
        (head + 7 < (Text.trimmed value.toList).length →
          ShowsEnds (Text.trimmed value.toList) head 4 ((ofKey key).apply value))) ∧
    (∀ key value, Mentions digestParts key → ¬ Mentions secretParts key → ¬ Mentions addressParts key →
      19 < (Text.trimmed value.toList).length →
        ShowsEnds (Text.trimmed value.toList) 10 6 ((ofKey key).apply value)) := by
  refine ⟨fields_withFields entry fields, fun others alike => ?_, ofKey_lower, fun key value named => ?_,
    fun key value named free => ?_, fun key value named free plain long => ?_⟩
  · rw [withFields_congr alike]
  · rw [ofKey_secret named, apply]
  · rw [ofKey_address named free, apply, shownAddress_eq]
    refine ⟨_, addressHead _, fun short => ?_, fun long => ?_⟩
    · rw [ends?_of_short short, Option.getD_none]
    · rw [ends?_of_long long, Option.getD_some]
      exact showsEnds_of_long long
  · rw [ofKey_digest named free plain, apply, shownDigest_of_long long]
    exact showsEnds_of_long long

/-- Another mnemonic of that length, another address with those ends and another hash with those ends give the same line. -/
theorem render_hides_sample :
    let entry : Entry := ⟨.info, "assembler", "Signed input", []⟩
    let fields := [("seed_hash", "abandon abandon about"), ("input", "0"),
      ("recipient", " bitcoincash:qpm2qsznhks23z7629mms6s4cwef74vcwvy22gdx6a"), ("txid", "0123456789abcdefghij")]
    let others := [("seed_hash", "zoo zoo zoo zoo wrong"), ("input", "0"),
      ("recipient", "bitcoincash:qpm2qqqqqqqqqqqqqqqqqqqqqqqqqqqqqqqqqqdx6a"), ("txid", "0123456789....efghij")]
    (entry.withFields fields).render = (entry.withFields others).render ∧
      ShowsEnds (Text.trimmed "0123456789abcdefghij".toList) 10 6 ((ofKey "txid").apply "0123456789abcdefghij") := by
  intro entry fields others
  obtain ⟨_, line, _, _, _, long⟩ := render_hides entry fields
  refine ⟨line others ?_, long _ _ (by decide) (by decide) (by decide) (by decide)⟩
  refine .cons ⟨rfl, .secret (by decide) (by decide)⟩ (.cons ⟨rfl, .same rfl⟩ (.cons ⟨rfl, ?_⟩ (.cons ⟨rfl, ?_⟩ .nil)))
  · exact .address (by decide) (by decide) ⟨by decide, by decide, by decide⟩
  · exact .digest (by decide) (by decide) (by decide) ⟨by decide, by decide, by decide⟩

end Entry

end CoinSpend.Log
