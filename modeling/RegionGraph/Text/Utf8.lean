/-!
# UTF-8

Characters as runs of one to four bytes and back. Decoding accepts exactly the
shortest form of every character; a fault tells where the first bad run starts,
and whether it is wrong or merely cut off by the end of the bytes.
-/

namespace RegionGraph.Utf8

/-- The bytes of a character. -/
def encodeChar (c : Char) : List UInt8 :=
  let n := c.toNat
  if n < 0x80 then [UInt8.ofNat n]
  else if n < 0x800 then [UInt8.ofNat (0xC0 + n / 64), UInt8.ofNat (0x80 + n % 64)]
  else if n < 0x10000 then
    [UInt8.ofNat (0xE0 + n / 4096), UInt8.ofNat (0x80 + n / 64 % 64),
      UInt8.ofNat (0x80 + n % 64)]
  else
    [UInt8.ofNat (0xF0 + n / 262144), UInt8.ofNat (0x80 + n / 4096 % 64),
      UInt8.ofNat (0x80 + n / 64 % 64), UInt8.ofNat (0x80 + n % 64)]

/-- The bytes of a text. -/
def encode (text : String) : List UInt8 := text.toList.flatMap encodeChar

/-- Why bytes are no text: from an index on, a number of bytes can begin no
    character, or the bytes end within one. -/
inductive Fault where
  | invalid (count index : Nat)
  | incomplete (index : Nat)
deriving DecidableEq

/-- The text of a fault. -/
def Fault.message : Fault → String
  | invalid count index =>
    "invalid utf-8 sequence of " ++ Nat.repr count ++ " bytes from index " ++ Nat.repr index
  | incomplete index => "incomplete utf-8 byte sequence from index " ++ Nat.repr index

/-- What the first byte of a run of several announces: the value bits it carries,
    the least and greatest second byte, and the bytes that follow the second. The
    bounds leave out overlong forms, surrogates and numbers past the last
    character. -/
structure Lead where
  bits : Nat
  least : Nat
  greatest : Nat
  more : Nat
deriving DecidableEq

/-- Read a first byte. Continuation bytes and those of forms that cannot be
    shortest announce nothing. -/
def Lead.of? (byte : Nat) : Option Lead :=
  if 0xC2 ≤ byte ∧ byte ≤ 0xDF then some ⟨byte - 0xC0, 0x80, 0xBF, 0⟩
  else if byte = 0xE0 then some ⟨0, 0xA0, 0xBF, 1⟩
  else if byte = 0xED then some ⟨0xD, 0x80, 0x9F, 1⟩
  else if 0xE1 ≤ byte ∧ byte ≤ 0xEF then some ⟨byte - 0xE0, 0x80, 0xBF, 1⟩
  else if byte = 0xF0 then some ⟨0, 0x90, 0xBF, 2⟩
  else if 0xF1 ≤ byte ∧ byte ≤ 0xF3 then some ⟨byte - 0xF0, 0x80, 0xBF, 2⟩
  else if byte = 0xF4 then some ⟨4, 0x80, 0x8F, 2⟩
  else none

/-- Whether a byte may follow inside a run. -/
def continues (byte : UInt8) : Bool := 0x80 ≤ byte.toNat && byte.toNat ≤ 0xBF

/-- Read the characters of bytes that start at an index. -/
def scan (index : Nat) : List UInt8 → Except Fault (List Char)
  | [] => .ok []
  | first :: rest =>
    if first.toNat < 0x80 then (scan (index + 1) rest).map (Char.ofNat first.toNat :: ·)
    else
      match Lead.of? first.toNat with
      | none => .error (.invalid 1 index)
      | some lead =>
        match rest with
        | [] => .error (.incomplete index)
        | second :: rest =>
          if second.toNat < lead.least ∨ lead.greatest < second.toNat then
            .error (.invalid 1 index)
          else
            let two := lead.bits * 64 + (second.toNat - 0x80)
            match lead.more, rest with
            | 0, rest => (scan (index + 2) rest).map (Char.ofNat two :: ·)
            | _, [] => .error (.incomplete index)
            | more, third :: rest =>
              if ¬continues third then .error (.invalid 2 index)
              else
                let three := two * 64 + (third.toNat - 0x80)
                match more, rest with
                | 1, rest => (scan (index + 3) rest).map (Char.ofNat three :: ·)
                | _, [] => .error (.incomplete index)
                | _, fourth :: rest =>
                  if ¬continues fourth then .error (.invalid 3 index)
                  else
                    (scan (index + 4) rest).map
                      (Char.ofNat (three * 64 + (fourth.toNat - 0x80)) :: ·)

/-- The text of bytes. -/
def decode (bytes : List UInt8) : Except Fault String :=
  (scan 0 bytes).map String.ofList

end RegionGraph.Utf8
