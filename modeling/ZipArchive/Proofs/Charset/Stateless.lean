import ZipArchive.Proofs.Charset.Reads

/-!
# Charsets without designations

In all charsets but ISO-2022-JP what a unit stands for depends on its own bytes only: a reading that
is not malformed stays the same whatever follows it. So bytes that read as a text read as this text
in front of any others, `Reads.append`.
-/

namespace ZipArchive.Charset

/-! ### Settled readings -/

/-- What is read behind `before` bytes of a unit is settled once it is not malformed: the unit is
made up of these and of some of the bytes that are there, and whatever stands behind it changes
nothing. -/
def Settled (before : Nat) (f : Bytes → Reading) : Prop :=
  ∀ rest, (f rest).text?.isSome → (f rest).after = .ascii ∧
    ∃ own behind, rest = own ++ behind ∧ (f rest).size = own.length + before ∧
      ∀ more, f (own ++ more) = f rest

namespace Settled

variable {before : Nat} {f : Bytes → Reading}

/-- Nothing more is read. -/
theorem of_const {r : Reading} (h : ∀ rest, f rest = r) (hafter : r.after = .ascii)
    (hsize : r.size = before) : Settled before f := by
  intro rest _
  simp only [h]
  exact ⟨hafter, [], rest, rfl, by rw [hsize, List.length_nil, Nat.zero_add], fun _ => trivial⟩

/-- There is no unit. -/
theorem of_malformed (h : ∀ rest, (f rest).text? = none) : Settled before f := by
  intro rest hrest
  rw [h] at hrest
  cases hrest

/-- One more byte is read, without which there is no unit. -/
theorem of_cons (hnil : (f []).text? = none)
    (hcons : ∀ t, Settled (before + 1) fun rest => f (t :: rest)) : Settled before f := by
  rintro (_ | ⟨t, rest⟩) h
  · rw [hnil] at h
    cases h
  · obtain ⟨hafter, own, behind, hrest, hsize, hmore⟩ := hcons t rest h
    refine ⟨hafter, t :: own, behind, by rw [hrest, List.cons_append], ?_, hmore⟩
    rw [hsize, List.length_cons, Nat.add_right_comm, Nat.add_assoc]

/-- Which of two ways it is read in does not depend on what is there. -/
theorem ite {g : Bytes → Reading} {p : Prop} [Decidable p] (hf : Settled before f)
    (hg : Settled before g) : Settled before fun rest => if p then f rest else g rest := by
  by_cases hp : p
  · simpa only [hp, if_true] using hf
  · simpa only [hp, if_false] using hg

/-- A unit is a lead and a trail byte. -/
theorem of_pair (ch? : Option Char) (t : UInt8) (h : ∀ rest, f rest = .pair ch? t) :
    Settled 2 f := by
  cases ch? with
  | none => exact of_malformed fun rest => by rw [h]; rfl
  | some ch => exact of_const h rfl rfl

end Settled

/-! ### The charsets -/

private theorem CodePage.settled_read (p : CodePage) (b : UInt8) : Settled 1 fun _ => p.read b := by
  rw [CodePage.read]
  cases p.char? b with
  | none => exact .of_malformed fun _ => rfl
  | some ch => exact .of_const (fun _ => rfl) rfl rfl

private theorem ShiftJis.settled_read (b : UInt8) : Settled 1 (read b) := by
  refine .ite (.of_const (fun _ => rfl) rfl rfl) ?_
  cases within? 0xA1 0xDF b with
  | some k => exact .of_const (fun _ => rfl) rfl rfl
  | none =>
    cases row? b with
    | none => exact .of_malformed fun _ => rfl
    | some row => exact .of_cons rfl fun t => .of_pair _ t fun _ => rfl

private theorem EucJp.settled_readSupplement : Settled 1 readSupplement := by
  refine .of_cons rfl fun lead => .ite (.of_malformed fun _ => rfl) (.of_cons rfl fun trail => ?_)
  dsimp only
  cases char? Index.jis0212 lead trail with
  | none => exact .of_malformed fun _ => rfl
  | some ch => exact .of_const (fun _ => rfl) rfl rfl

private theorem EucJp.settled_read (b : UInt8) : Settled 1 (read b) := by
  refine .ite (.of_const (fun _ => rfl) rfl rfl) <| .ite settled_readSupplement <|
    .ite (.of_cons rfl fun t => .ite ?_ ?_) (.of_malformed fun _ => rfl)
  · exact .of_pair _ t fun _ => rfl
  · exact .of_pair _ t fun _ => rfl

private theorem EucKr.settled_read (b : UInt8) : Settled 1 (read b) := by
  refine .ite (.of_const (fun _ => rfl) rfl rfl) ?_
  cases within? 0x81 0xFE b with
  | none => exact .of_malformed fun _ => rfl
  | some row => exact .of_cons rfl fun t => .of_pair _ t fun _ => rfl

private theorem Big5.settled_read (b : UInt8) : Settled 1 (read b) := by
  refine .ite (.of_const (fun _ => rfl) rfl rfl) ?_
  cases within? 0x81 0xFE b with
  | none => exact .of_malformed fun _ => rfl
  | some row =>
    refine .of_cons rfl fun t => ?_
    dsimp only
    cases (cell? t).map (row * 157 + ·) with
    | none => exact .of_pair none t fun _ => rfl
    | some pointer =>
      dsimp only
      cases composed? pointer with
      | some chars => exact .of_const (fun _ => rfl) rfl rfl
      | none => exact .of_pair _ t fun _ => rfl

private theorem Gb18030.settled_readFour (b d : UInt8) : Settled 2 (readFour b d) := by
  refine .of_cons rfl fun l => ?_
  dsimp only [readFour]
  cases within? 0x81 0xFE l with
  | none => exact .of_malformed fun _ => rfl
  | some k =>
    refine .of_cons rfl fun e => ?_
    dsimp only
    cases within? 0x30 0x39 e with
    | none => exact .of_malformed fun _ => rfl
    | some j =>
      dsimp only
      cases ofFourByte? (((b.toNat - 0x81) * 10 + (d.toNat - 0x30)) * 1260 + k * 10 + j) with
      | none => exact .of_malformed fun _ => rfl
      | some ch => exact .of_const (fun _ => rfl) rfl rfl

private theorem Gb18030.settled_read (b : UInt8) : Settled 1 (read b) := by
  refine .ite (.of_const (fun _ => rfl) rfl rfl) (.ite (.of_const (fun _ => rfl) rfl rfl) ?_)
  cases within? 0x81 0xFE b with
  | none => exact .of_malformed fun _ => rfl
  | some row =>
    exact .of_cons rfl fun t => .ite (settled_readFour b t) (.of_pair _ t fun _ => rfl)

/-! ### Texts in these charsets -/

/-- The charsets without designations, UTF-8 apart, which writes every character. -/
def isStateless : Charset → Bool
  | utf8 => false
  | iso2022Jp => false
  | _ => true

variable {c : Charset}

theorem settled_read (h : c.isStateless = true) (set : Designation) (b : UInt8) :
    Settled 1 (c.read set b) := by
  cases c with
  | utf8 => cases h
  | iso2022Jp => cases h
  | page p => exact p.settled_read b
  | shiftJis => exact ShiftJis.settled_read b
  | eucJp => exact EucJp.settled_read b
  | eucKr => exact EucKr.settled_read b
  | big5 => exact Big5.settled_read b
  | gbk => exact Gb18030.settled_read b
  | gb18030 => exact Gb18030.settled_read b

private theorem read_eq_of_isStateless (h : c.isStateless = true) (set set' : Designation)
    (b : UInt8) (rest : Bytes) : c.read set b rest = c.read set' b rest := by
  cases c with
  | iso2022Jp => cases h
  | _ => rfl

/-- The set that is designated does not matter. -/
theorem Reads.of_isStateless (h : c.isStateless = true) {set : Designation} (set' : Designation)
    {bs : Bytes} {text : List Char} (hreads : c.Reads set bs text) : c.Reads set' bs text := by
  cases bs with
  | nil => exact reads_nil_iff.2 (reads_nil_iff.1 hreads)
  | cons b rest =>
    rw [reads_cons_iff] at hreads ⊢
    rwa [read_eq_of_isStateless h set' set]

/-- Bytes that read as a text read as this text in front of others. -/
theorem Reads.append (h : c.isStateless = true) {set : Designation} {bs more : Bytes}
    {text text' : List Char} (hreads : c.Reads set bs text) (hmore : c.Reads .ascii more text') :
    c.Reads set (bs ++ more) (text ++ text') := by
  -- by induction on the number of bytes, since a unit may take several
  induction hlength : bs.length using Nat.strongRecOn generalizing set bs text with
  | ind n ih =>
    cases bs with
    | nil =>
      obtain rfl := reads_nil_iff.1 hreads
      exact hmore.of_isStateless h set
    | cons b rest =>
      obtain ⟨front, back, hfront, hback, rfl⟩ := reads_cons_iff.1 hreads
      obtain ⟨hafter, own, behind, rfl, hsize, hsettled⟩ :=
        settled_read h set b rest (by rw [hfront]; rfl)
      have hread : c.read set b (own ++ behind ++ more) = c.read set b (own ++ behind) := by
        rw [List.append_assoc, hsettled]
      have hwithin : (c.read set b (own ++ behind)).size - 1 ≤ (own ++ behind).length := by
        rw [hsize, List.length_append]
        omega
      rw [List.cons_append, reads_cons_iff, hread]
      refine ⟨front, back ++ text', hfront, ?_, List.append_assoc _ _ _⟩
      rw [List.drop_append_of_le_length hwithin]
      refine ih _ ?_ hback rfl
      rw [← hlength, List.length_drop, List.length_cons]
      omega

/-! ### Characters in these charsets -/

private theorem write_eq_of_isStateless (h : c.isStateless = true) (set : Designation) (ch : Char) :
    c.write set ch = c.write .ascii ch := by
  cases c with
  | iso2022Jp => cases h
  | _ => rfl

private theorem eq_ascii_of_write (h : c.isStateless = true) {set new : Designation} {ch : Char}
    {bs : Bytes} (hwrite : c.write set ch = some (bs, new)) : new = .ascii := by
  cases c with
  | utf8 => cases h
  | iso2022Jp => cases h
  | _ =>
    obtain ⟨_, -, heq⟩ := Option.map_eq_some_iff.1 hwrite
    exact (congrArg Prod.snd heq).symm

/-- ASCII characters are their own bytes. -/
theorem write_ascii (h : c.isStateless = true) (set : Designation) {ch : Char}
    (hch : ch.toNat < 0x80) : c.write set ch = some ([UInt8.ofNat ch.toNat], .ascii) := by
  cases c with
  | utf8 => cases h
  | iso2022Jp => cases h
  | page p => simp [write, CodePage.byte?, hch]
  | shiftJis => simp [write, ShiftJis.write, Nat.le_of_lt hch]
  | eucJp => simp [write, EucJp.write, hch]
  | eucKr => simp [write, EucKr.write, hch]
  | big5 => simp [write, Big5.write, hch]
  | gbk => simp [write, Gb18030.writeGbk, hch]
  | gb18030 => simp [write, Gb18030.write, hch]

private theorem read_ascii (h : c.isStateless = true) (set : Designation) {ch : Char}
    (hch : ch.toNat < 0x80) (rest : Bytes) :
    c.read set (UInt8.ofNat ch.toNat) rest = .char ch 1 := by
  have hbyte := toNat_ofNat_of_ascii hch
  have hlt : UInt8.ofNat ch.toNat < 0x80 := by
    rw [UInt8.lt_iff_toNat_lt, hbyte]
    exact hch
  have hle : UInt8.ofNat ch.toNat ≤ 0x80 := by
    rw [UInt8.le_iff_toNat_le, hbyte]
    exact Nat.le_of_lt hch
  cases c with
  | utf8 => cases h
  | iso2022Jp => cases h
  | page p => simp only [read, CodePage.read, CodePage.char?, hlt, if_true, hbyte, Char.ofNat_toNat]
  | shiftJis => simp only [read, ShiftJis.read, hle, if_true, hbyte, Char.ofNat_toNat]
  | eucJp => simp only [read, EucJp.read, hlt, if_true, hbyte, Char.ofNat_toNat]
  | eucKr => simp only [read, EucKr.read, hlt, if_true, hbyte, Char.ofNat_toNat]
  | big5 => simp only [read, Big5.read, hlt, if_true, hbyte, Char.ofNat_toNat]
  | gbk => simp only [read, Gb18030.read, hlt, if_true, hbyte, Char.ofNat_toNat]
  | gb18030 => simp only [read, Gb18030.read, hlt, if_true, hbyte, Char.ofNat_toNat]

/-- What a charset without designations maps exactly, reads back anywhere. -/
theorem roundTrips_of_isStateless (h : c.isStateless = true) {ch : Char}
    (hexact : c.mapsExactly ch = true) : c.RoundTrips ch := by
  intro set
  by_cases hch : ch.toNat < 0x80
  · refine ⟨_, _, write_ascii h set hch, fun rest text hrest => ?_⟩
    rw [List.singleton_append]
    refine reads_cons_iff.2 ⟨[ch], text, ?_, ?_, rfl⟩
    · rw [read_ascii h set hch]
      rfl
    · rw [read_ascii h set hch]
      exact hrest
  · have hutf8 : c.isUtf8 = false := by
      cases c with
      | utf8 => cases h
      | _ => rfl
    have hclose : c.close .ascii = [] := by
      cases c with
      | iso2022Jp => cases h
      | _ => rfl
    rw [mapsExactly, hutf8, decide_eq_false hch, Bool.false_or, Bool.false_or] at hexact
    cases hwrite : c.write .ascii ch with
    | none => simp [hwrite] at hexact
    | some written =>
      obtain ⟨bs, new⟩ := written
      obtain rfl := eq_ascii_of_write h hwrite
      -- the character was tried as a text of its own, and reads as well in front of others
      simp only [hwrite, hclose, List.append_nil] at hexact
      refine ⟨bs, .ascii, by rw [write_eq_of_isStateless h, hwrite], fun rest text hrest => ?_⟩
      cases hdecode : c.decode bs with
      | error bad => simp [hdecode] at hexact
      | ok decoded =>
        simp only [hdecode, decide_eq_true_eq] at hexact
        subst hexact
        exact ((decode_eq_ok_iff.1 hdecode).of_isStateless h set).append h hrest

end ZipArchive.Charset
