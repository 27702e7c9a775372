import CatalogQueue.Url

/-!
The address of a search, read back, with every encoder that behaves as documented: the encoded
criteria are written in a small alphabet (`Escaped`) and decode to the UTF-8 bytes of the
criteria, so the address determines the folder and the term (`searchUrlWith_encodes_term`).
-/

namespace CatalogQueue.Url

def isUnreservedChar (c : Char) : Bool :=
  c.isAlphanum || c == '-' || c == '_' || c == '.' || c == '~'

def isUpperHexDigit (c : Char) : Bool := c.isDigit || ['A', 'B', 'C', 'D', 'E', 'F'].contains c

def hexValue? (c : Char) : Option Nat :=
  if c.isDigit then some (c.toNat - '0'.toNat)
  else if 'A' ≤ c ∧ c ≤ 'F' then some (c.toNat - 'A'.toNat + 10)
  else if 'a' ≤ c ∧ c ≤ 'f' then some (c.toNat - 'a'.toNat + 10)
  else none

/-- Encoded text: every character stands for itself, except `%` followed by two upper-case
hexadecimal digits, which stand for one byte. -/
inductive Escaped : List Char → Prop
  | nil : Escaped []
  | plain {c : Char} {rest : List Char} : isUnreservedChar c → Escaped rest → Escaped (c :: rest)
  | escape {hi lo : Char} {rest : List Char} : isUpperHexDigit hi → isUpperHexDigit lo →
      Escaped rest → Escaped ('%' :: hi :: lo :: rest)

/-- Percent-decoding: `%` and two hexadecimal digits give the byte they spell, any other
character its UTF-8 bytes; a `%` without two digits after it is refused. -/
def percentDecode : List Char → Option (List UInt8)
  | [] => some []
  | '%' :: hi :: lo :: rest => do
    let h ← hexValue? hi
    let l ← hexValue? lo
    let bs ← percentDecode rest
    pure (UInt8.ofNat (16 * h + l) :: bs)
  | '%' :: _ => none
  | c :: rest => (String.utf8EncodeChar c ++ ·) <$> percentDecode rest

/-! ### The alphabet of an encoded text -/

theorem Escaped.append {a b : List Char} (ha : Escaped a) (hb : Escaped b) : Escaped (a ++ b) := by
  induction ha with
  | nil => exact hb
  | plain hc _ ih => exact .plain hc ih
  | escape hhi hlo _ ih => exact .escape hhi hlo ih

theorem Escaped.flatMap {α : Type} {f : α → List Char} (hf : ∀ x, Escaped (f x)) :
    ∀ xs : List α, Escaped (xs.flatMap f)
  | [] => .nil
  | x :: xs => by
    rw [List.flatMap_cons]
    exact (hf x).append (Escaped.flatMap hf xs)

/-- No character of an encoded text is a separator of an address or a blank: each is a letter,
a digit, one of `- _ . ~`, or the `%` of an escape. -/
theorem Escaped.mem {cs : List Char} (h : Escaped cs) :
    ∀ c ∈ cs, c.isAlphanum ∨ c ∈ ['-', '_', '.', '~', '%'] := by
  -- the digits of an escape are alphanumeric, as every upper-case hexadecimal digit is
  have hex : ∀ c, isUpperHexDigit c = true → c.isAlphanum = true := by
    intro c hc
    simp only [isUpperHexDigit, Bool.or_eq_true, List.contains_eq_mem, List.mem_cons,
      List.not_mem_nil, decide_eq_true_eq, or_false] at hc
    rcases hc with hc | hc | hc | hc | hc | hc | hc
    · simp [Char.isAlphanum, hc]
    all_goals subst hc; decide
  induction h with
  | nil => simp
  | plain hc _ ih =>
    intro c' hc'
    rcases List.mem_cons.1 hc' with rfl | hc'
    · simp only [isUnreservedChar, Bool.or_eq_true, beq_iff_eq] at hc
      rcases hc with (((hc | hc) | hc) | hc) | hc
      · exact .inl hc
      all_goals simp [hc]
    · exact ih c' hc'
  | escape hhi hlo _ ih =>
    intro c' hc'
    simp only [List.mem_cons] at hc'
    rcases hc' with rfl | rfl | rfl | hc'
    · simp
    · exact .inl (hex _ hhi)
    · exact .inl (hex _ hlo)
    · exact ih c' hc'

set_option maxRecDepth 10000 in
theorem unreserved_byte_facts : ∀ n < 256, isUnreserved (UInt8.ofNat n) = true →
    isUnreservedChar (Char.ofNat n) = true ∧ Char.ofNat n ≠ '%' ∧
      String.utf8EncodeChar (Char.ofNat n) = [UInt8.ofNat n] := by
  decide

theorem hexDigit_facts : ∀ n < 16, isUpperHexDigit (hexDigit n) = true ∧
    hexValue? (hexDigit n) = some n := by
  decide

theorem unreserved_byte {b : UInt8} (h : isUnreserved b = true) :
    isUnreservedChar (Char.ofNat b.toNat) = true ∧ Char.ofNat b.toNat ≠ '%' ∧
      String.utf8EncodeChar (Char.ofNat b.toNat) = [b] := by
  have hb := unreserved_byte_facts b.toNat b.toNat_lt (by rwa [UInt8.ofNat_toNat])
  rwa [UInt8.ofNat_toNat] at hb

theorem escaped_encodeByte (b : UInt8) : Escaped (encodeByte b) := by
  unfold encodeByte
  split
  · next h => exact .plain (unreserved_byte h).1 .nil
  · have hhi := hexDigit_facts (b.toNat / 16) (by have := b.toNat_lt; omega)
    have hlo := hexDigit_facts (b.toNat % 16) (by omega)
    exact .escape hhi.1 hlo.1 .nil

theorem toUTF8_toList (s : String) :
    s.toUTF8.data.toList = s.toList.flatMap String.utf8EncodeChar := by
  rw [String.toUTF8_eq_toByteArray, ← String.utf8Encode_toList, List.utf8Encode,
    List.toList_data_toByteArray]

theorem percentEncode_encodes : Encodes percentEncode := by
  intro s
  rw [toUTF8_toList, List.flatMap_assoc, percentEncode, String.toList_ofList]

/-! ### Decoding what was encoded -/

theorem percentDecode_cons {c : Char} (hc : c ≠ '%') (rest : List Char) :
    percentDecode (c :: rest) = (String.utf8EncodeChar c ++ ·) <$> percentDecode rest := by
  simp [percentDecode, hc]

theorem percentDecode_encodeByte (b : UInt8) (rest : List Char) :
    percentDecode (encodeByte b ++ rest) = (b :: ·) <$> percentDecode rest := by
  unfold encodeByte
  split
  · next h =>
    obtain ⟨-, hpct, hutf8⟩ := unreserved_byte h
    rw [List.singleton_append, percentDecode_cons hpct, hutf8]
    rfl
  · -- an escape spells the byte's two halves
    have hhi := (hexDigit_facts (b.toNat / 16) (by have := b.toNat_lt; omega)).2
    have hlo := (hexDigit_facts (b.toNat % 16) (by omega)).2
    have hbyte : UInt8.ofNat (16 * (b.toNat / 16) + b.toNat % 16) = b := by
      rw [Nat.div_add_mod, UInt8.ofNat_toNat]
    simp only [List.cons_append, List.nil_append, percentDecode, hhi, hlo]
    cases percentDecode rest with
    | none => rfl
    | some bs => show some (UInt8.ofNat _ :: bs) = some (b :: bs); rw [hbyte]

theorem percentDecode_encodeBytes (bs : List UInt8) (rest : List Char) :
    percentDecode (bs.flatMap encodeByte ++ rest) = (bs ++ ·) <$> percentDecode rest := by
  induction bs with
  | nil =>
    rw [List.flatMap_nil, List.nil_append]
    cases percentDecode rest <;> rfl
  | cons b bs ih =>
    rw [List.flatMap_cons, List.append_assoc, percentDecode_encodeByte, ih]
    cases percentDecode rest <;> rfl

namespace Encodes

variable {encode : String → String} (h : Encodes encode)
include h

theorem escaped (s : String) : Escaped (encode s).toList := by
  rw [h s]
  exact Escaped.flatMap escaped_encodeByte _

theorem percentDecode_eq (s : String) :
    percentDecode (encode s).toList = some s.toUTF8.data.toList := by
  have hbytes := percentDecode_encodeBytes s.toUTF8.data.toList []
  rw [List.append_nil] at hbytes
  rw [h s, hbytes]
  simp [percentDecode]

theorem injective {s t : String} (heq : encode s = encode t) : s = t := by
  have hbytes : some s.toUTF8.data.toList = some t.toUTF8.data.toList := by
    rw [← h.percentDecode_eq, ← h.percentDecode_eq, heq]
  rw [toUTF8_toList, toUTF8_toList] at hbytes
  rw [← String.toByteArray_inj, ← String.utf8Encode_toList, ← String.utf8Encode_toList,
    List.utf8Encode, List.utf8Encode, Option.some.inj hbytes]

end Encodes

/-! ### The search address -/

theorem eq_of_append_cons_eq {α : Type} {a : α} {xs ys xs' ys' : List α} (hys : a ∉ ys)
    (hys' : a ∉ ys') (h : xs ++ a :: ys = xs' ++ a :: ys') : xs = xs' ∧ ys = ys' := by
  induction xs generalizing xs' with
  | nil =>
    cases xs' with
    | nil => exact ⟨rfl, (List.cons.inj h).2⟩
    | cons x xs' =>
      -- the `a` of the right side would stand in `ys`
      have hys_eq := (List.cons.inj h).2
      exact absurd (hys_eq ▸ List.mem_append_right xs' List.mem_cons_self) hys
  | cons x xs ih =>
    cases xs' with
    | nil =>
      have hys_eq := (List.cons.inj h).2
      exact absurd (hys_eq.symm ▸ List.mem_append_right xs List.mem_cons_self) hys'
    | cons x' xs' =>
      obtain ⟨hx, htail⟩ := List.cons.inj h
      obtain ⟨hxs, hys⟩ := ih htail
      exact ⟨hx ▸ hxs ▸ rfl, hys⟩

variable {encode : String → String}

theorem searchUrlWith_toList (url term : String) :
    (searchUrlWith encode url term).toList =
      url.toList ++ '&' :: ("searchterm=".toList ++
        (encode ("dc:description contains " ++ term)).toList ++ [')']) := by
  simp [searchUrlWith]

/-- A search address determines the folder's address and the term. -/
theorem searchUrlWith_injective (h : Encodes encode) {url url' term term' : String}
    (heq : searchUrlWith encode url term = searchUrlWith encode url' term') :
    url = url' ∧ term = term' := by
  have hlist := congrArg String.toList heq
  rw [searchUrlWith_toList, searchUrlWith_toList] at hlist
  -- nothing after the `&` of the parameter is an `&`
  have hfree : ∀ t, '&' ∉ "searchterm=".toList ++
      (encode ("dc:description contains " ++ t)).toList ++ [')'] := by
    intro t hmem
    simp only [List.mem_append, List.mem_singleton] at hmem
    rcases hmem with (hmem | hmem) | hmem
    · exact absurd hmem (by decide)
    · have := (h.escaped _).mem '&' hmem
      simp at this
    · exact absurd hmem (by decide)
  obtain ⟨hurl, hrest⟩ := eq_of_append_cons_eq (hfree term) (hfree term') hlist
  have hencoded := List.append_cancel_left (List.append_cancel_right hrest)
  have hcriteria := h.injective (String.toList_injective hencoded)
  have hterm : term.toList = term'.toList := by simpa using congrArg String.toList hcriteria
  exact ⟨String.toList_injective hurl, String.toList_injective hterm⟩

/-- With an encoder that behaves as documented, a search address is the folder's address,
`&searchterm=`, the encoded criteria and `)`; the criteria are written only in the encoded
alphabet, decode to the UTF-8 bytes of `dc:description contains` and the term, and the address
determines the folder and the term. -/
theorem searchUrlWith_encodes_term (h : Encodes encode) (url term : String) :
    ∃ encoded : String,
      searchUrlWith encode url term = url ++ "&searchterm=" ++ encoded ++ ")" ∧
      Escaped encoded.toList ∧
      (∀ c ∈ encoded.toList, c.isAlphanum ∨ c ∈ ['-', '_', '.', '~', '%']) ∧
      percentDecode encoded.toList = some ("dc:description contains " ++ term).toUTF8.data.toList ∧
      ∀ url' term', searchUrlWith encode url' term' = searchUrlWith encode url term →
        url' = url ∧ term' = term :=
  ⟨_, rfl, h.escaped _, (h.escaped _).mem, h.percentDecode_eq _,
    fun _ _ heq => searchUrlWith_injective h heq⟩

/-- A search address is the folder's address, `&searchterm=`, the encoded criteria and `)`. The
criteria are written only in the encoded alphabet, so no character of the term stands in the
address as a separator, a `%` or a blank, and decoding them gives the UTF-8 bytes of
`dc:description contains` and the term. The address determines the folder and the term. -/
theorem searchUrl_encodes_term (url term : String) :
    ∃ encoded : String,
      searchUrl url term = url ++ "&searchterm=" ++ encoded ++ ")" ∧
      Escaped encoded.toList ∧
      (∀ c ∈ encoded.toList, c.isAlphanum ∨ c ∈ ['-', '_', '.', '~', '%']) ∧
      percentDecode encoded.toList = some ("dc:description contains " ++ term).toUTF8.data.toList ∧
      ∀ url' term', searchUrl url' term' = searchUrl url term → url' = url ∧ term' = term :=
  searchUrlWith_encodes_term percentEncode_encodes url term

end CatalogQueue.Url
