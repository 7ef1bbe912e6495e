import ZipArchive.Proofs.Charset.Malformed
import ZipArchive.Proofs.Text.Unescape
import ZipArchive.TextEncoding

/-!
# Decoding under the two policies

Under the fallback policy all bytes decode. Where the strict policy accepts them, what comes out is
its text with the runs of escapes replaced. Where it does not, the text up to the place of its fault
is read first, and a replacement character behind it: `decode_fallback_strict`.
-/

namespace ZipArchive.TextEncoding

/-- What the fallback policy makes of a text that was read: its runs of escapes are replaced. UTF-8
knows no escapes, and there the text stays. -/
def FallbackOf (c : Charset) (text out : String) : Prop :=
  if c.isUtf8 then out = text else Escape.Unescaped text.toList out.toList

variable {c : Charset} {bs : Bytes}

/-- Under the fallback policy all bytes decode. -/
theorem exists_decode_fallback (c : Charset) (bs : Bytes) :
    ∃ out, (mk c .fallback).decode bs = .ok out ∧
      FallbackOf c (String.ofList (c.decodeLossy bs)) out := by
  refine ⟨_, rfl, ?_⟩
  cases hutf8 : c.isUtf8 with
  | true => simp [FallbackOf, escapes, isUtf8, hutf8]
  | false =>
    simp only [FallbackOf, escapes, isUtf8, hutf8, Bool.false_eq_true, if_false, decide_true,
      Bool.not_false, Bool.and_self, if_true, String.toList_ofList]
    exact Escape.unescaped_iff.2 rfl

/-- The strict policy accepts the bytes that read as a text. -/
theorem decode_strict_eq_ok_iff {text : String} :
    (mk c .strict).decode bs = .ok text ↔ c.decode bs = .ok text.toList := by
  simp only [decode]
  cases c.decode bs with
  | error bad => simp
  | ok read =>
    rw [Except.ok.injEq, Except.ok.injEq]
    constructor
    · rintro rfl
      exact String.toList_ofList.symm
    · rintro rfl
      exact String.ofList_toList

/-- The fault of the strict policy is that of the first malformed unit. -/
theorem decode_strict_eq_error {fault : Fault} (h : (mk c .strict).decode bs = .error fault) :
    ∃ position size : Nat, c.decode bs = .error (position, size) ∧
      fault = .encoding c.name position s!"malformed byte sequence of length {size}" := by
  simp only [decode] at h
  cases hdecode : c.decode bs with
  | ok read =>
    rw [hdecode] at h
    cases h
  | error bad =>
    obtain ⟨position, size⟩ := bad
    rw [hdecode] at h
    cases h
    exact ⟨position, size, rfl, rfl⟩

/-- In every charset all bytes decode under the fallback policy. If the strict policy accepts them,
this gives its text with each run of escapes replaced, and in UTF-8 its text. If the strict policy
refuses them, it says where: the bytes before are accepted, and their text is what the fallback
policy reads first, with a replacement character behind it. -/
theorem decode_fallback_strict (c : Charset) (bs : Bytes) :
    ∃ out, (mk c .fallback).decode bs = .ok out ∧
      FallbackOf c (String.ofList (c.decodeLossy bs)) out ∧
      (∀ text, (mk c .strict).decode bs = .ok text → FallbackOf c text out) ∧
      ∀ fault, (mk c .strict).decode bs = .error fault →
        ∃ (position size : Nat) (text : String) (behind : List Char),
          fault = .encoding c.name position s!"malformed byte sequence of length {size}" ∧
          position < bs.length ∧ (mk c .strict).decode (bs.take position) = .ok text ∧
          c.decodeLossy bs = text.toList ++ '\uFFFD' :: behind := by
  obtain ⟨out, hout, hfallback⟩ := exists_decode_fallback c bs
  refine ⟨out, hout, hfallback, fun text htext => ?_, fun fault hfault => ?_⟩
  · have hreads := Charset.decode_eq_ok_iff.1 (decode_strict_eq_ok_iff.1 htext)
    rwa [Charset.decodeLossy_of_reads hreads, String.ofList_toList] at hfallback
  · obtain ⟨position, size, hdecode, rfl⟩ := decode_strict_eq_error hfault
    obtain ⟨hposition, text, behind, htext, hlossy⟩ := Charset.of_decode_eq_error hdecode
    refine ⟨position, size, String.ofList text, behind, rfl, hposition, ?_, ?_⟩
    · rwa [decode_strict_eq_ok_iff, String.toList_ofList]
    · rwa [String.toList_ofList]

/-- A yen sign in the Roman set of ISO-2022-JP, the escapes of a pair, and a byte of no set. -/
def sampleRoman : Bytes :=
  [0x1B, 0x28, 0x4A, 0x5C, 0x25, 0x55, 0x44, 0x38, 0x33, 0x44, 0x25, 0x55, 0x64, 0x65, 0x30, 0x30,
    0x80, 0x21]

/-- What comes before the byte of no set is a text under the strict policy, of which the fallback
policy resolves the escapes. All of it is malformed at that byte. -/
theorem decode_fallback_strict_sampleRoman :
    (∃ out, (mk .iso2022Jp .fallback).decode (sampleRoman.take 16) = .ok out ∧
      FallbackOf .iso2022Jp "¥%UD83D%Ude00" out) ∧
    ∃ position text behind, position < sampleRoman.length ∧
      (mk .iso2022Jp .strict).decode (sampleRoman.take position) = .ok text ∧
      Charset.iso2022Jp.decodeLossy sampleRoman = text.toList ++ '\uFFFD' :: behind := by
  constructor
  · obtain ⟨out, hout, -, htext, -⟩ := decode_fallback_strict .iso2022Jp (sampleRoman.take 16)
    exact ⟨out, hout, htext _ (by decide +kernel)⟩
  · have hstrict : (mk .iso2022Jp .strict).decode sampleRoman =
        .error (.encoding "ISO-2022-JP" 16 "malformed byte sequence of length 1") := by
      decide +kernel
    obtain ⟨-, -, -, -, hfault⟩ := decode_fallback_strict .iso2022Jp sampleRoman
    obtain ⟨position, -, text, behind, -, hrest⟩ := hfault _ hstrict
    exact ⟨position, text, behind, hrest⟩

end ZipArchive.TextEncoding
