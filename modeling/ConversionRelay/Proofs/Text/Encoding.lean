import ConversionRelay.Proofs.Text.Case
import ConversionRelay.Text.Encoding
/-!
What is decoded of a text that was encoded in UTF-8, and its line breaks.

The bytes of a code point that is no half of a surrogate pair are read as this code point, whatever
bytes follow, by a decoder that keeps such halves out. So a text that has bytes is what its bytes
are decoded to. Plain line breaks change nothing between two breaks: a run of characters that holds
none is found where it was found before.

Main statements: decoding the bytes of a text yields the text (`decodeUtf8_of_encodeUtf8`), a
decoder that keeps halves out decodes no other bytes (`encodeUtf8_of_decodeUtf8`), and a text begins
with a run of other characters exactly if it does so with plain line breaks
(`plainLineBreaks_append`, `append_of_plainLineBreaks`).
-/
namespace ConversionRelay.Text

/-- A text without halves of surrogate pairs. -/
def Characters (s : Text) : Prop := ∀ c ∈ s, c.isSurrogate = false

section Utf8

theorem toNat_byte {n : Nat} (small : n < 256) : (UInt8.ofNat n).toNat = n := by
  simp only [UInt8.toNat_ofNat']
  omega

/-- A character lies before or behind the halves of surrogate pairs. -/
theorem code_of_char {c : CodePoint} (isChar : c.isSurrogate = false) :
    c.code < 0xd800 ∨ 0xe000 ≤ c.code ∧ c.code < 0x110000 := by
  cases c with
  | char c =>
    have valid := c.valid
    simp only [CodePoint.code, Char.toNat]
    rcases valid with low | high
    · exact .inl low
    · right
      omega
  | surrogate half => cases isChar

/-- A byte within bounds continues the bits that were read so far. -/
theorem continued_succ {bits taken count : Nat} {bounds : Nat × Nat} {n : Nat} (small : n < 256)
    (within : bounds.1 ≤ n ∧ n ≤ bounds.2) (rest : List UInt8) :
    continued bits taken bounds (count + 1) (UInt8.ofNat n :: rest) =
      continued (bits * 64 + (n - 0x80)) (taken + 1) (0x80, 0xbf) count rest := by
  rw [continued, toNat_byte small, if_pos within]

/-- A decoder that keeps halves out reads as many bytes as the first one asks for. -/
theorem utf8Front_refused {lead : UInt8} {n count bits : Nat} (value : lead.toNat = n)
    (followers : followers? n = some count) (contributed : leadBits n count = bits)
    (rest : List UInt8) :
    utf8Front .refused lead rest =
      (continued bits 1 (secondBounds n) count rest).map fun n => (n, count) := by
  subst value contributed
  have refused : ¬ LoneSurrogate.refused = .kept := by simp
  simp only [utf8Front, if_neg refused, followers]

section Lengths

variable {n : Nat}

/-- A code point of one byte is read from it. -/
theorem utf8Front_one (most : n < 0x80) (rest : List UInt8) :
    utf8Front .refused (UInt8.ofNat n) rest = .ok (n, 0) := by
  have lead : (UInt8.ofNat n).toNat = n := toNat_byte (by omega)
  have followers : followers? n = some 0 := by rw [followers?, if_pos most]
  rw [utf8Front_refused lead followers rfl]
  rfl

/-- A code point of two bytes is read from them. -/
theorem utf8Front_two (least : 0x80 ≤ n) (most : n < 0x800) (rest : List UInt8) :
    utf8Front .refused (UInt8.ofNat (0xc0 + n / 64)) (UInt8.ofNat (0x80 + n % 64) :: rest) =
      .ok (n, 1) := by
  have lead : (UInt8.ofNat (0xc0 + n / 64)).toNat = 0xc0 + n / 64 := toNat_byte (by omega)
  have bits : leadBits (0xc0 + n / 64) 1 = n / 64 := Nat.add_sub_cancel_left ..
  have followers : followers? (0xc0 + n / 64) = some 1 := by
    rw [followers?, if_neg (by omega), if_neg (by omega), if_pos (by omega)]
  have bounds : secondBounds (0xc0 + n / 64) = (0x80, 0xbf) := by
    rw [secondBounds, if_neg (by omega), if_neg (by omega), if_neg (by omega),
      if_neg (by omega)]
  have value : n / 64 * 64 + (0x80 + n % 64 - 0x80) = n := by omega
  rw [utf8Front_refused lead followers bits, bounds,
    continued_succ (by omega) ⟨by omega, by omega⟩, value]
  rfl

/-- A code point of three bytes that is no half of a surrogate pair is read from them. -/
theorem utf8Front_three (least : 0x800 ≤ n) (most : n < 0x10000)
    (outside : n < 0xd800 ∨ 0xe000 ≤ n) (rest : List UInt8) :
    utf8Front .refused (UInt8.ofNat (0xe0 + n / 4096))
        (UInt8.ofNat (0x80 + n / 64 % 64) :: UInt8.ofNat (0x80 + n % 64) :: rest) =
      .ok (n, 2) := by
  have lead : (UInt8.ofNat (0xe0 + n / 4096)).toNat = 0xe0 + n / 4096 := toNat_byte (by omega)
  have bits : leadBits (0xe0 + n / 4096) 2 = n / 4096 := Nat.add_sub_cancel_left ..
  have followers : followers? (0xe0 + n / 4096) = some 2 := by
    rw [followers?, if_neg (by omega), if_neg (by omega), if_neg (by omega), if_pos (by omega)]
  have within : (secondBounds (0xe0 + n / 4096)).1 ≤ 0x80 + n / 64 % 64 ∧
      0x80 + n / 64 % 64 ≤ (secondBounds (0xe0 + n / 4096)).2 := by
    rw [secondBounds]
    split
    · constructor <;> dsimp only <;> omega
    · split
      · constructor <;> dsimp only <;> omega
      · rw [if_neg (by omega), if_neg (by omega)]
        constructor <;> dsimp only <;> omega
  have value : (n / 4096 * 64 + (0x80 + n / 64 % 64 - 0x80)) * 64 +
      (0x80 + n % 64 - 0x80) = n := by omega
  rw [utf8Front_refused lead followers bits, continued_succ (by omega) within,
    continued_succ (by omega) ⟨by omega, by omega⟩, value]
  rfl

/-- A code point of four bytes is read from them. -/
theorem utf8Front_four (least : 0x10000 ≤ n) (most : n < 0x110000) (rest : List UInt8) :
    utf8Front .refused (UInt8.ofNat (0xf0 + n / 262144))
        (UInt8.ofNat (0x80 + n / 4096 % 64) :: UInt8.ofNat (0x80 + n / 64 % 64) ::
          UInt8.ofNat (0x80 + n % 64) :: rest) =
      .ok (n, 3) := by
  have lead : (UInt8.ofNat (0xf0 + n / 262144)).toNat = 0xf0 + n / 262144 := toNat_byte (by omega)
  have bits : leadBits (0xf0 + n / 262144) 3 = n / 262144 := Nat.add_sub_cancel_left ..
  have followers : followers? (0xf0 + n / 262144) = some 3 := by
    rw [followers?, if_neg (by omega), if_neg (by omega), if_neg (by omega), if_neg (by omega),
      if_pos (by omega)]
  have within : (secondBounds (0xf0 + n / 262144)).1 ≤ 0x80 + n / 4096 % 64 ∧
      0x80 + n / 4096 % 64 ≤ (secondBounds (0xf0 + n / 262144)).2 := by
    rw [secondBounds, if_neg (by omega), if_neg (by omega)]
    split
    · constructor <;> dsimp only <;> omega
    · split
      · constructor <;> dsimp only <;> omega
      · constructor <;> dsimp only <;> omega
  have value : ((n / 262144 * 64 + (0x80 + n / 4096 % 64 - 0x80)) * 64 +
      (0x80 + n / 64 % 64 - 0x80)) * 64 + (0x80 + n % 64 - 0x80) = n := by omega
  rw [utf8Front_refused lead followers bits, continued_succ (by omega) within,
    continued_succ (by omega) ⟨by omega, by omega⟩,
    continued_succ (by omega) ⟨by omega, by omega⟩, value]
  rfl

end Lengths

/-- The bytes of a code point that is no half of a surrogate pair are read as this code point. -/
theorem utf8Front_utf8Bytes {c : CodePoint} (isChar : c.isSurrogate = false) :
    ∃ lead tail, utf8Bytes c = lead :: tail ∧ ∀ rest,
      utf8Front .refused lead (tail ++ rest) = .ok (c.code, tail.length) := by
  have range := code_of_char isChar
  simp only [utf8Bytes]
  by_cases one : c.code < 0x80
  · rw [if_pos one]
    exact ⟨_, _, rfl, utf8Front_one one⟩
  · rw [if_neg one]
    by_cases two : c.code < 0x800
    · rw [if_pos two]
      exact ⟨_, _, rfl, utf8Front_two (by omega) two⟩
    · rw [if_neg two]
      by_cases three : c.code < 0x10000
      · rw [if_pos three]
        exact ⟨_, _, rfl, utf8Front_three (by omega) three (by omega)⟩
      · rw [if_neg three]
        exact ⟨_, _, rfl, utf8Front_four (by omega) (by omega)⟩

/-- Bytes that are passed over are not looked at. -/
theorem decodeUtf8From_skip (lone : LoneSurrogate) (before rest : List UInt8) (position : Nat) :
    decodeUtf8From lone position before.length (before ++ rest) =
      decodeUtf8From lone (position + before.length) 0 rest := by
  induction before generalizing position with
  | nil => rfl
  | cons b before ih =>
    rw [List.length_cons, List.cons_append, decodeUtf8From, ih]
    congr 1
    omega

section Inversion

variable {lead : UInt8} {rest : List UInt8} {n used : Nat}

theorem eq_of_continued_zero {bits taken : Nat} {bounds : Nat × Nat} {bytes : List UInt8}
    (reads : continued bits taken bounds 0 bytes = .ok n) : n = bits := by
  rw [continued] at reads
  exact (Except.ok.inj reads).symm

theorem continued_eq_ok {bits taken count : Nat} {bounds : Nat × Nat} {bytes : List UInt8}
    (reads : continued bits taken bounds (count + 1) bytes = .ok n) :
    ∃ b rest, bytes = b :: rest ∧ bounds.1 ≤ b.toNat ∧ b.toNat ≤ bounds.2 ∧
      continued (bits * 64 + (b.toNat - 0x80)) (taken + 1) (0x80, 0xbf) count rest = .ok n := by
  cases bytes with
  | nil => cases reads
  | cons b rest =>
    rw [continued] at reads
    split at reads
    · rename_i within
      exact ⟨b, rest, rfl, within.1, within.2, reads⟩
    · cases reads

/-- A decoder that keeps halves out reads what the first byte asks for. -/
theorem continued_of_utf8Front (reads : utf8Front .refused lead rest = .ok (n, used)) :
    followers? lead.toNat = some used ∧
      continued (leadBits lead.toNat used) 1 (secondBounds lead.toNat) used rest = .ok n := by
  have refused : ¬ LoneSurrogate.refused = .kept := by simp
  simp only [utf8Front, if_neg refused] at reads
  cases followers : followers? lead.toNat with
  | none =>
    rw [followers] at reads
    cases reads
  | some count =>
    rw [followers] at reads
    dsimp only at reads
    cases continues : continued (leadBits lead.toNat count) 1 (secondBounds lead.toNat) count
        rest with
    | error flaw =>
      rw [continues] at reads
      cases reads
    | ok value =>
      rw [continues] at reads
      cases reads
      exact ⟨rfl, continues⟩

theorem ofNat_byte {b : UInt8} (is : n = b.toNat) : UInt8.ofNat n = b := by
  subst is
  exact UInt8.ofNat_toNat

theorem isSurrogate_ofCode (outside : n < 0xd800 ∨ 0xe000 ≤ n) :
    (CodePoint.ofCode n).isSurrogate = false := by
  have apart : ¬(CodePoint.firstSurrogate ≤ n ∧ n < CodePoint.firstSurrogate + 2048) := by
    simp only [CodePoint.firstSurrogate]
    omega
  rw [CodePoint.ofCode, dif_neg apart]
  rfl

/-- How many bytes a first byte asks for. -/
theorem followers?_cases {lead : Nat} (followers : followers? lead = some used) :
    used = 0 ∧ lead < 0x80 ∨ used = 1 ∧ 0xc2 ≤ lead ∧ lead < 0xe0 ∨
      used = 2 ∧ 0xe0 ≤ lead ∧ lead < 0xf0 ∨ used = 3 ∧ 0xf0 ≤ lead ∧ lead < 0xf5 := by
  unfold followers? at followers
  split_ifs at followers <;> simp only [Option.some.injEq] at followers <;> omega

/-- A second byte within its bounds makes no shorter form, no half of a surrogate pair and nothing
beyond the last code point. -/
theorem secondBounds_cases {lead second : Nat} (least : (secondBounds lead).1 ≤ second)
    (most : second ≤ (secondBounds lead).2) :
    0x80 ≤ second ∧ second ≤ 0xbf ∧ (lead = 0xe0 → 0xa0 ≤ second) ∧
      (lead = 0xed → second ≤ 0x9f) ∧ (lead = 0xf0 → 0x90 ≤ second) ∧
      (lead = 0xf4 → second ≤ 0x8f) := by
  unfold secondBounds at least most
  split_ifs at least most <;> dsimp only at least most <;> omega

/-- The bytes that one code point was read from are its own, and it is no half of a surrogate
pair. -/
theorem utf8Bytes_of_utf8Front (reads : utf8Front .refused lead rest = .ok (n, used)) :
    utf8Bytes (.ofCode n) = lead :: rest.take used ∧ n < 0x110000 ∧ (n < 0xd800 ∨ 0xe000 ≤ n) := by
  obtain ⟨followers, continues⟩ := continued_of_utf8Front reads
  have code (small : n < 0x110000) : (CodePoint.ofCode n).code = n := CodePoint.code_ofCode small
  simp only [utf8Bytes]
  rcases followers?_cases followers with ⟨rfl, one⟩ | ⟨rfl, two⟩ | ⟨rfl, three⟩ | ⟨rfl, four⟩
  · have value : n = lead.toNat := eq_of_continued_zero continues
    refine ⟨?_, by omega, by omega⟩
    rw [code (by omega), if_pos (by omega), ofNat_byte value, List.take_zero]
  · obtain ⟨b, rest, rfl, least, most, continues⟩ := continued_eq_ok continues
    obtain ⟨least, most, _⟩ := secondBounds_cases least most
    have value : n = (lead.toNat - 0xc0) * 64 + (b.toNat - 0x80) := eq_of_continued_zero continues
    refine ⟨?_, by omega, by omega⟩
    rw [code (by omega), if_neg (by omega), if_pos (by omega), ofNat_byte (b := lead) (by omega),
      ofNat_byte (b := b) (by omega)]
    rfl
  · obtain ⟨b, rest, rfl, least, most, continues⟩ := continued_eq_ok continues
    obtain ⟨c, rest, rfl, least', most', continues⟩ := continued_eq_ok continues
    obtain ⟨least, most, long, half, _⟩ := secondBounds_cases least most
    dsimp only at least' most'
    have value : n = ((lead.toNat - 0xe0) * 64 + (b.toNat - 0x80)) * 64 + (c.toNat - 0x80) :=
      eq_of_continued_zero continues
    refine ⟨?_, by omega, by omega⟩
    rw [code (by omega), if_neg (by omega), if_neg (by omega), if_pos (by omega),
      ofNat_byte (b := lead) (by omega), ofNat_byte (b := b) (by omega),
      ofNat_byte (b := c) (by omega)]
    rfl
  · obtain ⟨b, rest, rfl, least, most, continues⟩ := continued_eq_ok continues
    obtain ⟨c, rest, rfl, least', most', continues⟩ := continued_eq_ok continues
    obtain ⟨d, rest, rfl, least'', most'', continues⟩ := continued_eq_ok continues
    obtain ⟨least, most, _, _, long, beyond⟩ := secondBounds_cases least most
    dsimp only at least' most' least'' most''
    have value : n = (((lead.toNat - 0xf0) * 64 + (b.toNat - 0x80)) * 64 + (c.toNat - 0x80)) * 64 +
        (d.toNat - 0x80) := eq_of_continued_zero continues
    refine ⟨?_, by omega, by omega⟩
    rw [code (by omega), if_neg (by omega), if_neg (by omega), if_neg (by omega),
      ofNat_byte (b := lead) (by omega), ofNat_byte (b := b) (by omega),
      ofNat_byte (b := c) (by omega), ofNat_byte (b := d) (by omega)]
    rfl

/-- A decoder that keeps halves in reads whatever one reads that keeps them out. -/
theorem utf8Front_of_refused (lone : LoneSurrogate)
    (reads : utf8Front .refused lead rest = .ok (n, used)) :
    utf8Front lone lead rest = .ok (n, used) := by
  cases lone with
  | refused => exact reads
  | kept =>
    have noHalf : surrogateBytes? lead rest = none := by
      cases half : surrogateBytes? lead rest with
      | none => rfl
      | some unit =>
        unfold surrogateBytes? at half
        split at half
        · split at half
          · rename_i second third _ is
            obtain ⟨followers, continues⟩ := continued_of_utf8Front reads
            rw [is.1] at followers continues
            cases followers
            obtain ⟨b, _, same, _, most, _⟩ := continued_eq_ok continues
            cases same
            exact absurd (show second.toNat ≤ 0x9f from most) (by omega)
          · cases half
        · cases half
    have refused : ¬ LoneSurrogate.refused = .kept := by simp
    simp only [utf8Front, if_neg refused] at reads
    simp only [utf8Front, if_true, noHalf]
    exact reads

end Inversion

theorem decodeUtf8From_utf8Bytes (lone : LoneSurrogate) {s : Text} (chars : s.Characters)
    (position : Nat) : decodeUtf8From lone position 0 (s.flatMap utf8Bytes) = .ok s := by
  induction s generalizing position with
  | nil => rfl
  | cons c s ih =>
    obtain ⟨isChar, chars⟩ := List.forall_mem_cons.mp chars
    obtain ⟨lead, tail, bytes, front⟩ := utf8Front_utf8Bytes isChar
    rw [List.flatMap_cons, bytes, List.cons_append, decodeUtf8From,
      utf8Front_of_refused lone (front _)]
    dsimp only
    rw [decodeUtf8From_skip, ih chars]
    simp only [Except.map, CodePoint.ofCode_code]

/-- A text that has bytes holds no half of a surrogate pair. -/
theorem chars_of_encodeUtf8 {s : Text} {bytes : List UInt8} (encodes : encodeUtf8 s = .ok bytes) :
    s.Characters := by
  have whole := List.takeWhile_append_dropWhile (p := fun c => !c.isSurrogate) (l := s)
  have dropped : s.drop (s.takeWhile fun c => !c.isSurrogate).length =
      s.dropWhile fun c => !c.isSurrogate := by
    conv => lhs; arg 2; rw [← whole]
    exact List.drop_left
  unfold encodeUtf8 at encodes
  dsimp only at encodes
  rw [dropped] at encodes
  cases behind : s.dropWhile fun c => !c.isSurrogate with
  | nil =>
    intro c member
    have kept := List.all_takeWhile (p := fun c : CodePoint => !c.isSurrogate) (l := s)
    rw [behind, List.append_nil] at whole
    rw [whole] at kept
    simpa using List.all_eq_true.mp kept c member
  | cons half rest =>
    rw [behind] at encodes
    cases encodes

/-- What the bytes of a text are decoded to is the text. -/
theorem decodeUtf8_of_encodeUtf8 {lone : LoneSurrogate} {s : Text} {bytes : List UInt8}
    (encodes : encodeUtf8 s = .ok bytes) : decodeUtf8 lone bytes = .ok s := by
  have chars := chars_of_encodeUtf8 encodes
  rw [encodeUtf8_of_all_char chars] at encodes
  cases encodes
  exact decodeUtf8From_utf8Bytes lone chars 0

theorem encoded_of_decodeUtf8From {bytes : List UInt8} {s : Text} {position skip : Nat}
    (decodes : decodeUtf8From .refused position skip bytes = .ok s) :
    s.Characters ∧ s.flatMap utf8Bytes = bytes.drop skip := by
  induction bytes generalizing position skip s with
  | nil =>
    rw [decodeUtf8From] at decodes
    cases decodes
    exact ⟨List.forall_mem_nil _, List.drop_nil.symm⟩
  | cons lead rest ih =>
    cases skip with
    | succ skip =>
      rw [decodeUtf8From] at decodes
      exact ih decodes
    | zero =>
      rw [decodeUtf8From] at decodes
      cases front : utf8Front .refused lead rest with
      | error flaw =>
        rw [front] at decodes
        cases decodes
      | ok read =>
        obtain ⟨n, used⟩ := read
        rw [front] at decodes
        cases more : decodeUtf8From .refused (position + 1) used rest with
        | error problem =>
          simp only [more] at decodes
          cases decodes
        | ok t =>
          simp only [more] at decodes
          cases decodes
          obtain ⟨own, bound, outside⟩ := utf8Bytes_of_utf8Front front
          obtain ⟨chars, others⟩ := ih more
          refine ⟨List.forall_mem_cons.mpr ⟨isSurrogate_ofCode outside, chars⟩, ?_⟩
          rw [List.flatMap_cons, own, others, List.cons_append, List.take_append_drop,
            List.drop_zero]

/-- Bytes that are decoded by a decoder that keeps halves out are those of the text. -/
theorem encodeUtf8_of_decodeUtf8 {s : Text} {bytes : List UInt8}
    (decodes : decodeUtf8 .refused bytes = .ok s) : encodeUtf8 s = .ok bytes := by
  obtain ⟨chars, same⟩ := encoded_of_decodeUtf8From decodes
  rw [encodeUtf8_of_all_char chars, same, List.drop_zero]

end Utf8

section LineBreaks

/-- A character that belongs to a line break. -/
def IsBreak (c : CodePoint) : Prop := c = '\r' ∨ c = '\n'

instance : DecidablePred IsBreak := fun c => by unfold IsBreak; infer_instance

theorem plainLineBreaks_cons {c : CodePoint} (other : c ≠ '\r') (s : Text) :
    plainLineBreaks (c :: s) = c :: plainLineBreaks s := by
  rw [plainLineBreaks, if_neg other]
  intro rest is
  exact absurd is other

theorem plainLineBreaks_return (s : Text) :
    ∃ rest, plainLineBreaks (CodePoint.char '\r' :: s) = CodePoint.char '\n' :: rest := by
  rw [plainLineBreaks.eq_def]
  split
  · rename_i nothing
    cases nothing
  · exact ⟨_, rfl⟩
  · rename_i c rest _ same
    obtain ⟨rfl, rfl⟩ := List.cons.inj same
    exact ⟨_, rfl⟩

/-- A text is empty, begins with a break that becomes a line feed, or with a character that stays. -/
theorem plainLineBreaks_cases (s : Text) :
    s = [] ∨
      (∃ rest after, s = CodePoint.char '\r' :: rest ∧
        plainLineBreaks s = CodePoint.char '\n' :: after) ∨
      ∃ (c : CodePoint) (rest : Text), c ≠ '\r' ∧ s = c :: rest ∧
        plainLineBreaks s = c :: plainLineBreaks rest := by
  cases s with
  | nil => exact .inl rfl
  | cons c s =>
    right
    by_cases breaks : c = '\r'
    · subst breaks
      obtain ⟨after, is⟩ := plainLineBreaks_return s
      exact .inl ⟨s, after, rfl, is⟩
    · exact .inr ⟨c, s, breaks, rfl, plainLineBreaks_cons breaks s⟩

/-- Where all characters of line breaks count alike, what comes behind those that count is the same
text as before. -/
theorem dropWhile_plainLineBreaks {property : CodePoint → Bool}
    (alike : property '\r' = property '\n') (s : Text) :
    (plainLineBreaks s).dropWhile property = plainLineBreaks (s.dropWhile property) := by
  induction s using plainLineBreaks.induct with
  | case1 => rfl
  | case2 rest ih =>
    rw [plainLineBreaks]
    cases counts : property '\n' with
    | true =>
      rw [List.dropWhile_cons_of_pos counts, List.dropWhile_cons_of_pos (alike.trans counts),
        List.dropWhile_cons_of_pos counts, ih]
    | false =>
      have stays : ¬property '\r' = true := by simp [alike, counts]
      rw [List.dropWhile_cons_of_neg (by simp [counts]), List.dropWhile_cons_of_neg stays,
        plainLineBreaks]
  | case3 c rest other ih =>
    let kept : CodePoint := if c = '\r' then '\n' else c
    have plain : plainLineBreaks (c :: rest) = kept :: plainLineBreaks rest := by
      rw [plainLineBreaks]
      exact other
    have same : property kept = property c := by
      by_cases breaks : c = '\r'
      · rw [show kept = '\n' from if_pos breaks, breaks, alike]
      · rw [show kept = c from if_neg breaks]
    rw [plain]
    cases counts : property c with
    | true =>
      rw [List.dropWhile_cons_of_pos counts, List.dropWhile_cons_of_pos (same.trans counts), ih]
    | false =>
      rw [List.dropWhile_cons_of_neg (by simp [same, counts]),
        List.dropWhile_cons_of_neg (by simp [counts]), plain]

/-- A run of characters that belong to no line break is the same as before. -/
theorem takeWhile_plainLineBreaks {property : CodePoint → Bool}
    (apart : ∀ c, IsBreak c → property c = false) (s : Text) :
    (plainLineBreaks s).takeWhile property = s.takeWhile property := by
  induction s with
  | nil => rfl
  | cons c s ih =>
    by_cases breaks : c = '\r'
    · subst breaks
      obtain ⟨rest, is⟩ := plainLineBreaks_return s
      rw [is, List.takeWhile_cons_of_neg (by simp [apart _ (.inr rfl)]),
        List.takeWhile_cons_of_neg (by simp [apart _ (.inl rfl)])]
    · rw [plainLineBreaks_cons breaks, List.takeWhile_cons, List.takeWhile_cons, ih]

theorem plainLineBreaks_append {w : Text} (apart : ∀ c ∈ w, ¬IsBreak c) (s : Text) :
    plainLineBreaks (w ++ s) = w ++ plainLineBreaks s := by
  induction w with
  | nil => rfl
  | cons c w ih =>
    obtain ⟨first, others⟩ := List.forall_mem_cons.mp apart
    rw [List.cons_append, plainLineBreaks_cons fun is => first (.inl is), ih others]
    rfl

/-- What a text begins with when its line breaks are plain, it begins with. -/
theorem append_of_plainLineBreaks {w s t : Text} (apart : ∀ c ∈ w, ¬IsBreak c)
    (begins : plainLineBreaks s = w ++ t) : ∃ rest, s = w ++ rest ∧ plainLineBreaks rest = t := by
  induction w generalizing s with
  | nil => exact ⟨s, rfl, begins⟩
  | cons c w ih =>
    obtain ⟨first, others⟩ := List.forall_mem_cons.mp apart
    obtain rfl | ⟨_, _, rfl, is⟩ | ⟨d, s, _, rfl, is⟩ := plainLineBreaks_cases s
    · cases begins
    · rw [is] at begins
      exact absurd (.inr (List.cons.inj begins).1.symm) first
    · rw [is] at begins
      obtain ⟨rfl, behind⟩ := List.cons.inj begins
      obtain ⟨rest, rfl, plain⟩ := ih others behind
      exact ⟨rest, rfl, plain⟩

/-- A text without the character that begins a line break of another convention is as it was. -/
theorem plainLineBreaks_eq_self {s : Text} (apart : ∀ c ∈ s, c ≠ '\r') :
    plainLineBreaks s = s := by
  induction s with
  | nil => rfl
  | cons c s ih =>
    obtain ⟨first, others⟩ := List.forall_mem_cons.mp apart
    rw [plainLineBreaks_cons first, ih others]

end LineBreaks

end ConversionRelay.Text
