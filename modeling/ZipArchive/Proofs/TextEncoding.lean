import ZipArchive.Proofs.Charset.Iso2022Jp
import ZipArchive.Proofs.Charset.Stateless
import ZipArchive.Proofs.Charset.Utf8
import ZipArchive.Proofs.Except
import ZipArchive.Proofs.Text.Escape
import ZipArchive.TextEncoding

/-!
# Texts are read as they are written

Under the fallback policy every text is written, and its bytes read as this text again:
`TextEncoding.decode_encode`. The bytes read as the text protected with escapes,
`TextEncoding.encode_go_eq_ok`, character by character: what the charset maps exactly reads back by
`Charset.roundTrips`, and the characters of an escape are such characters. The only texts left out
are those with one of the three control characters that ISO-2022-JP never writes. Under the strict
policy fewer texts are written, those that can be encoded less the ones with such a character:
`TextEncoding.encode_strict_iff`. What is written reads as it was under either policy,
`decode_of_encode`.
-/

namespace ZipArchive

/-! ### Characters -/

namespace Charset

variable {c : Charset} {set : Designation}

/-- What is mapped exactly reads back, in ISO-2022-JP unless it is never written. -/
theorem roundTrips {ch : Char} (hutf8 : c.isUtf8 = false) (hexact : c.mapsExactly ch = true)
    (hwritable : c = .iso2022Jp → Iso2022Jp.IsWritable ch) : c.RoundTrips ch := by
  by_cases hstateless : c.isStateless = true
  · exact roundTrips_of_isStateless hstateless hexact
  · cases c with
    | utf8 => cases hutf8
    | iso2022Jp => exact Iso2022Jp.roundTrips hexact (hwritable rfl)
    | _ => exact absurd rfl hstateless

/-- The characters that ISO-2022-JP never writes count as mapped exactly, as all of ASCII does. -/
theorem mapsExactly_of_not_isWritable {ch : Char} (h : ¬Iso2022Jp.IsWritable ch) :
    c.mapsExactly ch = true := by
  have hascii : ch.toNat < 0x80 := by
    simp only [Iso2022Jp.IsWritable, not_and_or, not_not] at h
    rcases h with rfl | rfl | rfl <;> decide
  simp [mapsExactly, hascii]

theorem isWritable_of_write {ch : Char} {written : Bytes × Designation}
    (h : c.write set ch = some written) (hcharset : c = .iso2022Jp) : Iso2022Jp.IsWritable ch := by
  subst hcharset
  exact Iso2022Jp.isWritable_of_write h

/-- The characters of escapes are written in every charset. -/
theorem roundTrips_of_printable {ch : Char} (hutf8 : c.isUtf8 = false) (hch : 0x20 ≤ ch.toNat)
    (hascii : ch.toNat < 0x80) : c.RoundTrips ch := by
  refine roundTrips hutf8 (by simp [mapsExactly, hascii]) fun _ => ⟨?_, ?_, ?_⟩
  all_goals
    rintro rfl
    exact absurd hch (by decide)

/-- What ends a text adds nothing to it. -/
theorem reads_close (c : Charset) (set : Designation) : c.Reads set (c.close set) [] := by
  cases c with
  | iso2022Jp => exact Iso2022Jp.reads_close set
  | _ => exact reads_nil_iff.2 rfl

end Charset

/-! ### Texts -/

namespace TextEncoding

variable {e : TextEncoding}

/-- Characters that read back do so one behind the other. -/
theorem writeAscii_eq {c : Charset} {text : List Char} (h : ∀ ch ∈ text, c.RoundTrips ch)
    (set : Charset.Designation) (out : Bytes) :
    ∃ bs new, writeAscii c set text out = (new, bs.reverse ++ out) ∧
      ∀ rest behind, c.Reads new rest behind → c.Reads set (bs ++ rest) (text ++ behind) := by
  induction text generalizing set out with
  | nil => exact ⟨[], set, rfl, fun _ _ hrest => hrest⟩
  | cons ch text ih =>
    obtain ⟨front, mid, hwrite, hfront⟩ := h ch (List.mem_cons_self ..) set
    obtain ⟨back, new, hback, hread⟩ :=
      ih (fun x hx => h x (List.mem_cons_of_mem _ hx)) mid (front.reverseAux out)
    refine ⟨front ++ back, new, ?_, fun rest behind hrest => ?_⟩
    · have hstep : writeAscii c set (ch :: text) out =
          writeAscii c mid text (front.reverseAux out) := by
        simp only [writeAscii, List.foldl_cons, hwrite]
      rw [hstep, hback, List.reverseAux_eq, List.reverse_append, List.append_assoc]
    · rw [List.append_assoc]
      exact hfront _ _ (hread rest behind hrest)

/-- A character that cannot stand as it is gives way to its escape. -/
theorem encode_go_cons_of_isEscaped (hpolicy : e.policy = .fallback)
    (hutf8 : e.charset.isUtf8 = false) {c : Char} {rest : List Char}
    (h : Escape.isEscaped e.charset.mapsExactly c rest = true) (set : Charset.Designation)
    (before : List Char) (out : Bytes) :
    encode.go e set before out (c :: rest) =
      encode.go e (writeAscii e.charset set (Escape.ofChar c) out).1 (c :: before)
        (writeAscii e.charset set (Escape.ofChar c) out).2 rest := by
  have hescapes : e.escapes = true := by simp [escapes, isUtf8, hpolicy, hutf8]
  rw [encode.go, hescapes]
  by_cases hpercent : c = '%' ∧ (Escape.unit? (c :: rest)).isSome
  · obtain ⟨rfl, hunit⟩ := hpercent
    rw [hunit, decide_eq_true rfl]
    rfl
  · have hexact : e.charset.mapsExactly c = false := by
      simp only [Escape.isEscaped, Bool.or_eq_true, Bool.and_eq_true, decide_eq_true_eq,
        Bool.not_eq_true'] at h
      exact h.resolve_left hpercent
    rw [if_neg (by simpa using hpercent), hexact, if_neg Bool.false_ne_true, hpolicy,
      if_neg (by decide)]

/-- A character that stands as it is, is written. -/
theorem encode_go_cons_of_write (hpolicy : e.policy = .fallback)
    (hutf8 : e.charset.isUtf8 = false) {c : Char} {rest : List Char}
    (h : Escape.isEscaped e.charset.mapsExactly c rest = false) {set new : Charset.Designation}
    {bs : Bytes} (hwrite : e.charset.write set c = some (bs, new)) (before : List Char)
    (out : Bytes) :
    encode.go e set before out (c :: rest) =
      encode.go e new (c :: before) (bs.reverseAux out) rest := by
  have hescapes : e.escapes = true := by simp [escapes, isUtf8, hpolicy, hutf8]
  simp only [Escape.isEscaped, Bool.or_eq_false_iff, Bool.not_eq_false'] at h
  rw [encode.go, hescapes, Bool.true_and, h.1, if_neg Bool.false_ne_true, if_pos h.2]
  simp only [hwrite]

/-- A text is written as bytes that read as its protected form. -/
theorem encode_go_eq_ok (hpolicy : e.policy = .fallback) (hutf8 : e.charset.isUtf8 = false)
    (text : List Char)
    (hwritable : e.charset = .iso2022Jp → ∀ ch ∈ text, Charset.Iso2022Jp.IsWritable ch)
    (set : Charset.Designation) (before : List Char) (out : Bytes) :
    ∃ bs, encode.go e set before out text = .ok (out.reverse ++ bs) ∧
      e.charset.Reads set bs (Escape.protect e.charset.mapsExactly text) := by
  -- by induction on what is left of the text, whatever set the characters before it designate
  induction text generalizing set before out with
  | nil => exact ⟨e.charset.close set, rfl, e.charset.reads_close set⟩
  | cons c rest ih =>
    have hrest := ih fun h x hx => hwritable h x (List.mem_cons_of_mem _ hx)
    cases hescaped : Escape.isEscaped e.charset.mapsExactly c rest with
    | true =>
      have hprintable : ∀ x ∈ Escape.ofChar c, e.charset.RoundTrips x := fun x hx =>
        have hbounds := Escape.printable_of_mem_ofChar hx
        Charset.roundTrips_of_printable hutf8 hbounds.1 hbounds.2
      obtain ⟨front, new, hwrite, hfront⟩ := writeAscii_eq hprintable set out
      obtain ⟨back, hback, hread⟩ := hrest new (c :: before) (front.reverse ++ out)
      refine ⟨front ++ back, ?_, ?_⟩
      · rw [encode_go_cons_of_isEscaped hpolicy hutf8 hescaped, hwrite, hback,
          List.reverse_append, List.reverse_reverse, List.append_assoc]
      · rw [Escape.protect, hescaped, if_pos rfl]
        exact hfront _ _ hread
    | false =>
      have hexact : e.charset.mapsExactly c = true := by
        simp only [Escape.isEscaped, Bool.or_eq_false_iff, Bool.not_eq_false'] at hescaped
        exact hescaped.2
      obtain ⟨front, new, hwrite, hfront⟩ := Charset.roundTrips hutf8 hexact
        (fun h => hwritable h c (List.mem_cons_self ..)) set
      obtain ⟨back, hback, hread⟩ := hrest new (c :: before) (front.reverseAux out)
      refine ⟨front ++ back, ?_, ?_⟩
      · rw [encode_go_cons_of_write hpolicy hutf8 hescaped hwrite, hback, List.reverseAux_eq,
          List.reverse_append, List.reverse_reverse, List.append_assoc]
      · rw [Escape.protect, hescaped, if_neg Bool.false_ne_true, List.singleton_append]
        exact hfront _ _ hread

/-- Under the strict policy a character stands as it is, or ends the text. -/
theorem encode_go_cons_eq_ok_iff (hpolicy : e.policy = .strict) {c : Char} {rest : List Char}
    {set : Charset.Designation} {before : List Char} {out bs : Bytes} :
    encode.go e set before out (c :: rest) = .ok bs ↔
      ∃ front new, e.charset.mapsExactly c = true ∧ e.charset.write set c = some (front, new) ∧
        encode.go e new (c :: before) (front.reverseAux out) rest = .ok bs := by
  have hescapes : e.escapes = false := by simp [escapes, hpolicy]
  rw [encode.go, hescapes, Bool.false_and, Bool.false_and, if_neg Bool.false_ne_true]
  constructor
  · intro h
    split at h
    case isTrue hexact =>
      split at h
      case h_1 front new hwrite => exact ⟨front, new, hexact, hwrite, h⟩
      case h_2 => cases h
    case isFalse => cases h
  · rintro ⟨front, new, hexact, hwrite, h⟩
    rw [if_pos hexact]
    simpa only [hwrite] using h

/-- Under the strict policy, what is written reads as the text. -/
theorem reads_of_encode_go_strict (hpolicy : e.policy = .strict)
    (hutf8 : e.charset.isUtf8 = false) {text : List Char} {set : Charset.Designation}
    {before : List Char} {out bs : Bytes} (h : encode.go e set before out text = .ok bs) :
    ∃ more, bs = out.reverse ++ more ∧ e.charset.Reads set more text := by
  induction text generalizing set before out with
  | nil => exact ⟨e.charset.close set, (Except.ok.inj h).symm, e.charset.reads_close set⟩
  | cons c rest ih =>
    obtain ⟨front, new, hexact, hwrite, hrest⟩ := (encode_go_cons_eq_ok_iff hpolicy).1 h
    obtain ⟨back, hbs, hread⟩ := ih hrest
    -- what is written at all is none of the characters that never are
    have hwritable : e.charset = .iso2022Jp → Charset.Iso2022Jp.IsWritable c :=
      Charset.isWritable_of_write hwrite
    obtain ⟨front', new', hwrite', hfront⟩ := Charset.roundTrips hutf8 hexact hwritable set
    obtain ⟨rfl, rfl⟩ := Prod.mk.inj (Option.some.inj (hwrite'.symm.trans hwrite))
    refine ⟨front' ++ back, ?_, hfront _ _ hread⟩
    rw [hbs, List.reverseAux_eq, List.reverse_append, List.reverse_reverse, List.append_assoc]

/-- UTF-8 reads back under either policy. -/
theorem decode_utf8 (policy : Policy) (text : String) :
    (utf8 policy).decode (Charset.Utf8.ofText text.toList) = .ok text := by
  have hreads := Charset.Utf8.reads_ofText .ascii text.toList
  cases policy with
  | strict =>
    have hdecode : (utf8 .strict).charset.decode (Charset.Utf8.ofText text.toList) =
        .ok text.toList := Charset.decode_eq_ok_iff.2 hreads
    simp only [decode, utf8] at hdecode ⊢
    rw [hdecode]
    exact congrArg Except.ok text.ofList_toList
  | fallback =>
    have hdecode : (utf8 .fallback).charset.decodeLossy (Charset.Utf8.ofText text.toList) =
        text.toList := Charset.decodeLossy_of_reads hreads
    simp only [decode, utf8] at hdecode ⊢
    rw [hdecode]
    exact congrArg Except.ok text.ofList_toList

/-- What is written reads back, under the fallback policy in ISO-2022-JP if the text has no
character that is never written. -/
theorem decode_of_encode {text : String} {bs : Bytes} (h : e.encode text = .ok bs)
    (hwritable : e.policy = .fallback → e.charset = .iso2022Jp →
      ∀ ch ∈ text.toList, Charset.Iso2022Jp.IsWritable ch) : e.decode bs = .ok text := by
  cases hutf8 : e.charset.isUtf8 with
  | true =>
    obtain rfl : Charset.Utf8.ofText text.toList = bs := by
      rw [encode, isUtf8, hutf8, if_pos rfl] at h
      exact Except.ok.inj h
    obtain ⟨charset, policy⟩ := e
    obtain rfl : charset = .utf8 := by
      cases charset with
      | utf8 => rfl
      | _ => cases hutf8
    exact decode_utf8 policy text
  | false =>
    rw [encode, isUtf8, hutf8, if_neg Bool.false_ne_true] at h
    cases hpolicy : e.policy with
    | strict =>
      obtain ⟨_, rfl, hreads⟩ := reads_of_encode_go_strict hpolicy hutf8 h
      have hdecode : e.charset.decode bs = .ok text.toList := Charset.decode_eq_ok_iff.2 hreads
      simp only [decode, hpolicy, hdecode, String.ofList_toList]
    | fallback =>
      obtain ⟨more, hmore, hreads⟩ :=
        encode_go_eq_ok hpolicy hutf8 text.toList (hwritable hpolicy) .ascii [] []
      obtain rfl := Except.ok.inj (hmore.symm.trans h)
      have hescapes : e.escapes = true := by simp [escapes, isUtf8, hpolicy, hutf8]
      have hdecode : e.charset.decodeLossy more =
          Escape.protect e.charset.mapsExactly text.toList := Charset.decodeLossy_of_reads hreads
      simp only [decode, hpolicy, hescapes, if_true, List.reverse_nil, List.nil_append, hdecode,
        Escape.unescape_protect, String.ofList_toList]

/-- Under the strict policy exactly the texts are written whose characters are mapped exactly and
are none that ISO-2022-JP never writes. -/
theorem exists_encode_go_strict_iff (hpolicy : e.policy = .strict)
    (hutf8 : e.charset.isUtf8 = false) {text : List Char} {set : Charset.Designation}
    {before : List Char} {out : Bytes} :
    (∃ bs, encode.go e set before out text = .ok bs) ↔ ∀ ch ∈ text,
      e.charset.mapsExactly ch = true ∧
        (e.charset = .iso2022Jp → Charset.Iso2022Jp.IsWritable ch) := by
  induction text generalizing set before out with
  | nil => exact ⟨fun _ => by simp, fun _ => ⟨_, rfl⟩⟩
  | cons c rest ih =>
    simp only [encode_go_cons_eq_ok_iff hpolicy, List.forall_mem_cons]
    constructor
    · rintro ⟨bs, front, new, hexact, hwrite, hrest⟩
      exact ⟨⟨hexact, Charset.isWritable_of_write hwrite⟩, ih.1 ⟨bs, hrest⟩⟩
    · rintro ⟨⟨hexact, hwritable⟩, hrest⟩
      obtain ⟨front, new, hwrite, -⟩ := Charset.roundTrips hutf8 hexact hwritable set
      obtain ⟨bs, hbs⟩ := ih.2 hrest
      exact ⟨bs, front, new, hexact, hwrite, hbs⟩

/-- The strict policy writes exactly the texts that can be encoded, less those with a character that
ISO-2022-JP never writes. -/
theorem exists_encode_strict_iff (c : Charset) (text : String) :
    (∃ bs, (mk c .strict).encode text = .ok bs) ↔ (mk c .strict).canEncode text = true ∧
      (c = .iso2022Jp → ∀ ch ∈ text.toList, Charset.Iso2022Jp.IsWritable ch) := by
  cases hutf8 : c.isUtf8 with
  | true =>
    have hcharset : c ≠ .iso2022Jp := by
      rintro rfl
      cases hutf8
    simp [encode, canEncode, isUtf8, hutf8, hcharset]
  | false =>
    simp only [encode, canEncode, isUtf8, hutf8, Bool.false_or, Bool.false_eq_true, if_false,
      List.all_eq_true]
    rw [exists_encode_go_strict_iff (e := mk c .strict) rfl hutf8]
    constructor
    · exact fun h => ⟨fun ch hch => (h ch hch).1, fun hcharset ch hch => (h ch hch).2 hcharset⟩
    · exact fun h ch hch => ⟨h.1 ch hch, fun hcharset => h.2 hcharset ch hch⟩

/-- Strict texts. In every charset the strict policy writes exactly the texts that can be encoded,
less those with one of the three control characters that ISO-2022-JP never writes, and what it
writes reads back. -/
theorem encode_strict_iff (c : Charset) (text : String) :
    ((∃ bs, (mk c .strict).encode text = .ok bs) ↔ (mk c .strict).canEncode text = true ∧
      (c = .iso2022Jp → ∀ ch ∈ text.toList, Charset.Iso2022Jp.IsWritable ch)) ∧
    ∀ bs, (mk c .strict).encode text = .ok bs → (mk c .strict).decode bs = .ok text :=
  ⟨exists_encode_strict_iff c text, fun _ h => decode_of_encode h fun hpolicy => nomatch hpolicy⟩

/-- A shift control counts as a character that can be encoded, but it is never written. -/
theorem encode_strict_of_shift :
    (mk .iso2022Jp .strict).canEncode "abc\u000E" = true ∧
      ∀ bs, (mk .iso2022Jp .strict).encode "abc\u000E" ≠ .ok bs := by
  refine ⟨by decide +kernel, fun bs h => ?_⟩
  have herror : ((mk .iso2022Jp .strict).encode "abc\u000E").isOk = false := by decide +kernel
  rw [h] at herror
  cases herror

/-- Whether the charset represents a text: the strict policy writes it. -/
def represents (e : TextEncoding) (text : String) : Bool :=
  ({ e with policy := .strict }.encode text).isOk

/-- A text without the control characters that ISO-2022-JP never writes, if that is the charset. -/
def withoutRefused (e : TextEncoding) (text : String) : String :=
  match e.charset with
  | .iso2022Jp => String.ofList (text.toList.filter fun ch => Charset.Iso2022Jp.IsWritable ch)
  | _ => text

/-- Most texts have no such characters. -/
theorem withoutRefused_eq_self {text : String}
    (h : e.charset = .iso2022Jp → ∀ ch ∈ text.toList, Charset.Iso2022Jp.IsWritable ch) :
    e.withoutRefused text = text := by
  rw [withoutRefused]
  split
  case h_1 hcharset =>
    have hall : ∀ ch ∈ text.toList, decide (Charset.Iso2022Jp.IsWritable ch) = true :=
      fun ch hch => decide_eq_true (h hcharset ch hch)
    rw [List.filter_eq_self.2 hall, String.ofList_toList]
  case h_2 => rfl

theorem represents_iff {text : String} : e.represents text = true ↔ e.canEncode text = true ∧
    (e.charset = .iso2022Jp → ∀ ch ∈ text.toList, Charset.Iso2022Jp.IsWritable ch) := by
  rw [represents, isOk_iff]
  exact exists_encode_strict_iff e.charset text

/-- What can be encoded is what the charset represents, the characters that ISO-2022-JP never writes
left out of account: they count as characters that can be encoded. -/
theorem canEncode_eq_represents (text : String) :
    e.canEncode text = e.represents (e.withoutRefused text) := by
  rw [Bool.eq_iff_iff, represents_iff, withoutRefused]
  split
  case h_1 hcharset =>
    have hutf8 : e.isUtf8 = false := by
      rw [isUtf8, hcharset]
      rfl
    simp only [canEncode, hutf8, Bool.false_or, List.all_eq_true, String.toList_ofList,
      List.mem_filter, decide_eq_true_eq]
    constructor
    · exact fun h => ⟨fun ch hch => h ch hch.1, fun _ ch hch => hch.2⟩
    · rintro ⟨h, -⟩ ch hch
      by_cases hwritable : Charset.Iso2022Jp.IsWritable ch
      · exact h ch ⟨hch, hwritable⟩
      · exact Charset.mapsExactly_of_not_isWritable hwritable
  case h_2 hcharset => exact (and_iff_left fun h => absurd h hcharset).symm

/-- Under the fallback policy every text is written and reads back, in ISO-2022-JP every text
without the three control characters that it never writes. -/
theorem decode_encode (e : TextEncoding) (text : String) (hpolicy : e.policy = .fallback)
    (hwritable : e.charset = .iso2022Jp → ∀ ch ∈ text.toList, Charset.Iso2022Jp.IsWritable ch) :
    ∃ bs, e.encode text = .ok bs ∧ e.decode bs = .ok text := by
  cases hutf8 : e.charset.isUtf8 with
  | true =>
    have hcharset : e.charset = .utf8 := by
      cases hc : e.charset with
      | utf8 => rfl
      | _ => rw [hc] at hutf8; cases hutf8
    have hread := Charset.decodeLossy_of_reads (Charset.Utf8.reads_ofText .ascii text.toList)
    refine ⟨Charset.Utf8.ofText text.toList, by rw [encode, isUtf8, hutf8, if_pos rfl], ?_⟩
    simp [decode, hpolicy, escapes, isUtf8, hcharset, hread, Charset.isUtf8]
  | false =>
    obtain ⟨bs, hencode, hreads⟩ := encode_go_eq_ok hpolicy hutf8 text.toList hwritable .ascii [] []
    have hescapes : e.escapes = true := by simp [escapes, isUtf8, hpolicy, hutf8]
    refine ⟨bs, ?_, ?_⟩
    · rw [encode, isUtf8, hutf8, if_neg Bool.false_ne_true, hencode]
      rfl
    · rw [decode, hpolicy]
      simp only [hescapes, if_true, Charset.decodeLossy_of_reads hreads, Escape.unescape_protect,
        String.ofList_toList]

/-- A text with what looks like an escape, and with characters that ISO-2022-JP holds in different
sets, or not at all. -/
def sampleText : List Char :=
  ['%', 'U', '0', '0', '4', '1', '%', '漢', '%', 'U', '¥', 'é', '😀']

/-- The sample is a text without control characters, and reads back in ISO-2022-JP. -/
theorem decode_encode_sampleText :
    ∃ bs, (TextEncoding.mk .iso2022Jp .fallback).encode (String.ofList sampleText) = .ok bs ∧
      (TextEncoding.mk .iso2022Jp .fallback).decode bs = .ok (String.ofList sampleText) :=
  decode_encode _ _ rfl fun _ => by
    simp only [String.toList_ofList, sampleText, List.forall_mem_cons, List.not_mem_nil,
      false_implies, implies_true, and_true]
    decide

end TextEncoding

end ZipArchive
