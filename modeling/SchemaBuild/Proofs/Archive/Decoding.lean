import SchemaBuild.Proofs.Archive.Deflate

/-!
# Taking bits

A decoder stands at a position among the bits of its input: some bits of a byte are in hand, and the
bytes behind it are still to be taken. What a decoder does is said by the bits that it takes, the
value that it comes to and what it writes: `Decoder.Takes`. What follows the bits does not matter, so
such statements are put together along `bind`.
-/

namespace SchemaBuild.Inflate

open Deflate

/-- The bits that have not been taken. -/
def State.pending (state : State) : List Bool :=
  lowFirst state.bitCount state.bits ++ bitsOf state.input

/-- **Where a decoder stands**: the bits before it, how many bits it has taken, and what it has
written. -/
structure State.At (state : State) (position : Nat) (bits : List Bool) (written : Bytes) : Prop where
  pending : state.pending = bits
  aligned : (position + state.bitCount) % 8 = 0
  bitCount_lt : state.bitCount < 8
  output : state.output.toList = written

/-- **What a decoder takes**: wherever it stands before the bits, it takes them and comes to the
value, and what was written before is then what is written after. -/
def Decoder.Takes {α : Type} (decoder : Decoder α) (position : Nat) (bits : List Bool) (value : α)
    (before after : Bytes) : Prop :=
  ∀ state rest, state.At position (bits ++ rest) before →
    ∃ state', decoder state = .ok value state' ∧ state'.At (position + bits.length) rest after

namespace Decoder.Takes

variable {α β : Type} {position : Nat} {bits more : List Bool} {written before between after : Bytes}

theorem pure (value : α) : Takes (Pure.pure value) position [] value written written :=
  fun state _ hat => ⟨state, rfl, hat⟩

/-- One decoder after the other. -/
theorem bind {decoder : Decoder α} {next : α → Decoder β} {a : α} {b : β}
    (first : Takes decoder position bits a before between)
    (second : Takes (next a) (position + bits.length) more b between after) :
    Takes (decoder >>= next) position (bits ++ more) b before after := by
  intro state rest hat
  rw [List.append_assoc] at hat
  obtain ⟨middle, hfirst, hmiddle⟩ := first state _ hat
  obtain ⟨last, hsecond, hlast⟩ := second middle rest hmiddle
  refine ⟨last, ?_, ?_⟩
  · -- the second decoder goes on where the first one has ended
    show EStateM.bind decoder next state = .ok b last
    rw [EStateM.bind, hfirst]
    exact hsecond
  · rwa [List.length_append, ← Nat.add_assoc]

/-- The first decoder takes nothing. -/
theorem bind_nil {decoder : Decoder α} {next : α → Decoder β} {a : α} {b : β}
    (first : Takes decoder position [] a before between)
    (second : Takes (next a) position more b between after) :
    Takes (decoder >>= next) position more b before after :=
  first.bind second

/-- The second decoder takes nothing. -/
theorem bind_last {decoder : Decoder α} {next : α → Decoder β} {a : α} {b : β}
    (first : Takes decoder position bits a before between)
    (second : Takes (next a) (position + bits.length) [] b between after) :
    Takes (decoder >>= next) position bits b before after := by
  have hboth := first.bind second
  rwa [List.append_nil] at hboth

/-- What is made of a value takes nothing. -/
theorem map {decoder : Decoder α} {a : α} (h : Takes decoder position bits a before after)
    (f : α → β) : Takes (decoder >>= fun a => Pure.pure (f a)) position bits (f a) before after :=
  h.bind_last (pure (f a))

end Decoder.Takes

/-! ### Bits and bytes -/

section Bits

variable {position : Nat} {written : Bytes}

/-- At a whole byte there are no bits in hand. -/
theorem State.At.bitCount_eq_zero {state : State} {bits : List Bool}
    (h : state.At position bits written) (hposition : position % 8 = 0) : state.bitCount = 0 := by
  have haligned := h.aligned
  have hlt := h.bitCount_lt
  omega

/-- With no bits in hand, the next byte is taken off the input. -/
theorem takeByte_eq_ok {state : State} {b : UInt8} {rest : Bytes} (h : state.input = b :: rest) :
    ∃ delivered, takeByte state = .ok b { state with
      input := rest, consumed := state.consumed + 1, bitCount := 0, delivered } := by
  refine ⟨if state.consumed % bufferSize = 0 then state.output.size else state.delivered, ?_⟩
  obtain ⟨input, consumed, bits, bitCount, output, delivered⟩ := state
  subst h
  rfl

/-- The bits before a decoder without bits in hand are those of its input. -/
theorem State.exists_byte {state : State} {b : UInt8} {rest : List Bool}
    (hcount : state.bitCount = 0) (h : state.pending = lowFirst 8 b.toNat ++ rest) :
    ∃ bytes, state.input = b :: bytes ∧ bitsOf bytes = rest := by
  rw [pending, hcount, lowFirst, List.nil_append] at h
  cases hinput : state.input with
  | nil =>
    rw [hinput, bitsOf_nil] at h
    exact absurd (congrArg List.length h) (by simp; omega)
  | cons first bytes =>
    rw [hinput, bitsOf_cons] at h
    obtain ⟨hfirst, hrest⟩ := List.append_inj h (by simp)
    have hbyte : first.toNat = b.toNat := lowFirst_inj first.toNat_lt b.toNat_lt hfirst
    exact ⟨bytes, by rw [UInt8.toNat_inj.mp hbyte], hrest⟩

/-- At a whole byte, a byte is eight bits. -/
theorem takeByte_takes (b : UInt8) (h : position % 8 = 0) :
    Decoder.Takes takeByte position (lowFirst 8 b.toNat) b written written := by
  intro state rest hat
  have hcount := hat.bitCount_eq_zero h
  obtain ⟨bytes, hinput, hrest⟩ := State.exists_byte hcount hat.pending
  obtain ⟨delivered, htake⟩ := takeByte_eq_ok hinput
  refine ⟨_, htake, hrest, ?_, Nat.zero_lt_succ 7, hat.output⟩
  simpa using h

theorem testBit_zero_toNat (n : Nat) : (n.testBit 0).toNat = n % 2 := by
  rw [Nat.testBit_zero]
  obtain hzero | hone := Nat.mod_two_eq_zero_or_one n
  · -- the bit is not set
    simp [hzero]
  · -- the bit is set
    simp [hone]

/-- With no bits in hand a byte is fetched, and its lowest bit is the next one. -/
theorem takeBit_of_bitCount_eq_zero {state : State} (h : state.bitCount = 0) :
    takeBit state = EStateM.bind takeByte (fun b => do
      modify fun state => { state with bits := b.toNat / 2, bitCount := 7 }
      return b.toNat % 2) state := by
  obtain ⟨input, consumed, bits, bitCount, output, delivered⟩ := state
  subst h
  rfl

/-- With bits in hand the lowest of them is the next one. -/
theorem takeBit_of_bitCount_eq_succ {state : State} {count : Nat} (h : state.bitCount = count + 1) :
    takeBit state = .ok (state.bits % 2) { state with bits := state.bits / 2, bitCount := count } := by
  obtain ⟨input, consumed, bits, bitCount, output, delivered⟩ := state
  subst h
  rfl

/-- A bit is taken off a byte in hand, or off the next one. -/
theorem takeBit_takes (bit : Bool) :
    Decoder.Takes takeBit position [bit] bit.toNat written written := by
  intro state rest hat
  have hpending : lowFirst state.bitCount state.bits ++ bitsOf state.input = bit :: rest :=
    hat.pending
  have haligned := hat.aligned
  have hlt := hat.bitCount_lt
  cases hcount : state.bitCount with
  | zero =>
    -- no bit is in hand: a byte is fetched, and seven bits of it are left
    rw [hcount, lowFirst, List.nil_append] at hpending
    cases hinput : state.input with
    | nil =>
      -- nothing is left to fetch, although there is a bit to take
      rw [hinput] at hpending
      cases hpending
    | cons b bytes =>
      rw [hinput, bitsOf_cons, lowFirst, List.cons_append, List.cons.injEq] at hpending
      obtain ⟨rfl, hrest⟩ := hpending
      obtain ⟨delivered, htake⟩ := takeByte_eq_ok hinput
      refine ⟨{ state with
        input := bytes, consumed := state.consumed + 1, bits := b.toNat / 2, bitCount := 7,
        delivered }, ?_, hrest, ?_, Nat.lt_succ_self 7, hat.output⟩
      · rw [takeBit_of_bitCount_eq_zero hcount, EStateM.bind, htake, testBit_zero_toNat]
        rfl
      · -- eight bits further on is the beginning of a byte
        show (position + 1 + 7) % 8 = 0
        omega
  | succ count =>
    -- a bit is in hand, and there is one less of them behind it
    rw [hcount, lowFirst, List.cons_append, List.cons.injEq] at hpending
    obtain ⟨rfl, hrest⟩ := hpending
    refine ⟨{ state with bits := state.bits / 2, bitCount := count }, ?_, hrest, ?_, ?_, hat.output⟩
    · rw [takeBit_of_bitCount_eq_succ hcount, testBit_zero_toNat]
    · show (position + 1 + count) % 8 = 0
      omega
    · show count < 8
      omega

/-- A number is taken bit by bit. -/
theorem takeBits_takes {width value : Nat} (h : value < 2 ^ width) :
    Decoder.Takes (takeBits width) position (lowFirst width value) value written written := by
  induction width generalizing position value with
  | zero =>
    -- a number without bits
    obtain rfl : value = 0 := by omega
    exact .pure 0
  | succ width ih =>
    rw [Nat.pow_succ] at h
    have hvalue : (value.testBit 0).toNat + 2 * (value / 2) = value := by
      rw [testBit_zero_toNat]
      omega
    have hhigh : Decoder.Takes (takeBits width) (position + 1) (lowFirst width (value / 2))
      (value / 2) written written := ih (by omega)
    -- the lowest bit comes first, and the others are the number without it
    have hboth : Decoder.Takes (takeBits (width + 1)) position
        ([value.testBit 0] ++ lowFirst width (value / 2))
        ((value.testBit 0).toNat + 2 * (value / 2)) written written :=
      .bind (takeBit_takes (value.testBit 0)) (hhigh.map fun high => _ + 2 * high)
    rwa [hvalue] at hboth

/-- A value from a table is taken as the bits that say how much more it is. -/
theorem takeFrom_takes {table : Array (Nat × Nat)} {symbol value : Nat} {bits : List Bool}
    (h : IsEntry table symbol value bits) :
    Decoder.Takes (takeFrom table symbol) position bits value written written := by
  obtain ⟨least, width, more, hentry, hmore, rfl, rfl⟩ := h
  rw [takeFrom, hentry]
  exact (takeBits_takes hmore).map (least + ·)

end Bits

/-! ### Writing -/

section Writing

variable {position : Nat} {written : Bytes}

theorem emit_takes (b : UInt8) :
    Decoder.Takes (emit b) position [] () written (written ++ [b]) := by
  intro state rest hat
  refine ⟨_, rfl, hat.pending, hat.aligned, hat.bitCount_lt, ?_⟩
  show (state.output.push b).toList = written ++ [b]
  rw [Array.toList_push, hat.output]

/-- A repetition is copied byte by byte. -/
theorem copyBack_takes {distance length : Nat} {after : Bytes}
    (h : Repeats written distance length after) :
    Decoder.Takes (copyBack distance length) position [] () written after := by
  induction length generalizing written with
  | zero =>
    have hsame : after = written := (h.isPrefix.eq_of_length h.length_eq.symm).symm
    rw [hsame]
    exact .pure ()
  | succ length ih =>
    obtain ⟨b, hback, hrest⟩ := h.step
    intro state rest hat
    have hboth : Decoder.Takes (emit b >>= fun _ => copyBack distance length) position [] ()
        written after := .bind_nil (emit_takes b) (ih hrest)
    -- the byte that is looked up is the one that stands the distance back
    have hsize : state.output.size = written.length := by
      rw [← hat.output, Array.length_toList]
    have hbyte : (if distance ≤ state.output.size
        then state.output[state.output.size - distance]?.getD 0 else 0) = b := by
      have hlookup : state.output[state.output.size - distance]? = some b := by
        rw [← Array.getElem?_toList, hat.output, hsize]
        exact hback
      rw [hlookup, if_pos (by rw [hsize]; exact h.reach.2)]
      rfl
    have hstep : copyBack distance (length + 1) state
        = (emit b >>= fun _ => copyBack distance length) state := by
      rw [← hbyte]
      rfl
    rw [hstep]
    exact hboth state rest hat

/-- Stored bytes are copied one by one. -/
theorem copyStored_takes (data : Bytes) (h : position % 8 = 0) :
    Decoder.Takes (copyStored data.length) position (bitsOf data) () written (written ++ data) := by
  induction data generalizing position written with
  | nil =>
    rw [List.append_nil]
    exact .pure ()
  | cons b data ih =>
    have hrest : Decoder.Takes (copyStored data.length) (position + 8) (bitsOf data) ()
        (written ++ [b]) (written ++ [b] ++ data) := ih (by omega)
    have hboth : Decoder.Takes (copyStored (b :: data).length) position
        (lowFirst 8 b.toNat ++ bitsOf data) () written (written ++ [b] ++ data) :=
      .bind (takeByte_takes b h) (.bind_nil (emit_takes b) hrest)
    rw [bitsOf_cons]
    rwa [List.append_assoc] at hboth

/-- The bits in hand fill up a byte. -/
theorem dropBits_takes {filler : List Bool} (hsmall : filler.length < 8)
    (haligned : (position + filler.length) % 8 = 0) :
    Decoder.Takes (modify fun state => { state with bitCount := 0 }) position filler () written
      written := by
  intro state rest hat
  have hcount : state.bitCount = filler.length := by
    have hposition := hat.aligned
    have hlt := hat.bitCount_lt
    omega
  obtain ⟨-, hrest⟩ := List.append_inj hat.pending (by rw [lowFirst_length, hcount])
  exact ⟨_, rfl, hrest, haligned, Nat.zero_lt_succ 7, hat.output⟩

/-- **A stored block** is its length, the complement of its length, and its bytes. -/
theorem inflateStored_takes {filler : List Bool} {data : Bytes} (hsmall : filler.length < 8)
    (haligned : (position + filler.length) % 8 = 0) (hshort : data.length < 65536) :
    Decoder.Takes inflateStored position
      (filler ++ bitsOf (lowBytes 2 data.length ++ lowBytes 2 (65535 - data.length) ++ data)) ()
      written (written ++ data) := by
  have hbits : bitsOf (lowBytes 2 data.length ++ lowBytes 2 (65535 - data.length) ++ data)
      = lowFirst 8 (UInt8.ofNat data.length).toNat
        ++ (lowFirst 8 (UInt8.ofNat (data.length / 256)).toNat
        ++ (lowFirst 8 (UInt8.ofNat (65535 - data.length)).toNat
        ++ (lowFirst 8 (UInt8.ofNat ((65535 - data.length) / 256)).toNat ++ bitsOf data))) := by
    simp only [lowBytes, bitsOf_append, bitsOf_cons, bitsOf_nil, List.append_assoc, List.append_nil]
  have hlow : ∀ n, (UInt8.ofNat n).toNat = n % 256 := fun n => UInt8.toNat_ofNat'
  rw [hbits]
  refine .bind (dropBits_takes hsmall haligned) ?_
  refine .bind (takeByte_takes _ (by omega)) ?_
  refine .bind (takeByte_takes _ (by simp only [lowFirst_length]; omega)) ?_
  refine .bind (takeByte_takes _ (by simp only [lowFirst_length]; omega)) ?_
  refine .bind (takeByte_takes _ (by simp only [lowFirst_length]; omega)) ?_
  -- the two lengths fit together, and the first one is the length of the data
  have hlength : (UInt8.ofNat data.length).toNat + 256 * (UInt8.ofNat (data.length / 256)).toNat
      = data.length := by
    rw [hlow, hlow]
    omega
  have hcomplement : ¬data.length + ((UInt8.ofNat (65535 - data.length)).toNat
      + 256 * (UInt8.ofNat ((65535 - data.length) / 256)).toNat) ≠ 0xFFFF := by
    rw [hlow, hlow]
    omega
  dsimp only
  rw [hlength, if_neg hcomplement]
  exact copyStored_takes data (by simp only [lowFirst_length]; omega)

end Writing

end SchemaBuild.Inflate
