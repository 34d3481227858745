import Dialogue.Text.Basic
set_option autoImplicit false

/-!
# UTF-8

Decoding bytes, with the place and the reason of the first fault.  Encoding a text never fails; code
points can be encoded unless surrogates are among them.

Normative source: the files that `runtime` (`Engine._exec_actions`), `cli` (`run_cmd`), `webapp`
(`api_start`) and `llm_agent` (`_load_api_key`) read and write as UTF-8.
-/

namespace Dialogue.Utf8

/-- Why bytes are not UTF-8. -/
inductive Reason where
  | start
  | continuation
  | endOfData
  deriving DecidableEq, Repr

/-- Why bytes cannot be decoded or code points cannot be encoded. -/
inductive Fault where
  /-- The offset of the bytes, those that belong to the fault, and the reason. -/
  | undecodable (offset : Nat) (bytes : List UInt8) (reason : Reason)
  /-- The offset of the code points, and the surrogates that stand there in a row. -/
  | surrogates (offset : Nat) (codes : List Nat)
  deriving DecidableEq, Repr

/-- The reason in words. -/
def Reason.message : Reason → Text
  | start => "invalid start byte".toList
  | continuation => "invalid continuation byte".toList
  | endOfData => "unexpected end of data".toList

/-- The place of a fault: what stands there alone, or the range of several. -/
def place (alone : Option Text) (several : String) (offset length : Nat) : Text :=
  match alone with
  | some one => one ++ " in position ".toList ++ Text.ofNat offset
  | none =>
    several.toList ++ " in position ".toList ++ Text.ofNat offset ++ '-' ::
      Text.ofNat (offset + length - 1)

/-- The message of a fault. -/
def Fault.message : Fault → Text
  | undecodable offset bytes reason =>
    let alone := match bytes with
      | [b] => some ("byte 0x".toList ++ Text.hex 2 b.toNat)
      | _ => none
    "'utf-8' codec can't decode ".toList ++ place alone "bytes" offset bytes.length
      ++ ": ".toList ++ reason.message
  | surrogates offset codes =>
    let alone := match codes with
      | [n] => some ("character '\\u".toList ++ Text.hex 4 n ++ ['\x27'])
      | _ => none
    "'utf-8' codec can't encode ".toList ++ place alone "characters" offset codes.length
      ++ ": surrogates not allowed".toList

/-- A continuation byte. -/
def isContinuation (b : UInt8) : Bool := 0x80 ≤ b.toNat && b.toNat < 0xC0

/-- The second byte is allowed after the first. -/
def isSecond (first second : UInt8) : Bool :=
  isContinuation second &&
    match first.toNat with
    | 0xE0 => 0xA0 ≤ second.toNat
    | 0xED => second.toNat < 0xA0
    | 0xF0 => 0x90 ≤ second.toNat
    | 0xF4 => second.toNat < 0x90
    | _ => true

/-- The number of bytes of a character by its first byte; zero if none begins with it. -/
def width (first : UInt8) : Nat :=
  let n := first.toNat
  if n < 0x80 then 1
  else if n < 0xC2 then 0
  else if n < 0xE0 then 2
  else if n < 0xF0 then 3
  else if n < 0xF5 then 4
  else 0

/-- The number of bytes, from the first on, that can begin a character of the given width. -/
def wellBegun (first : UInt8) (rest : List UInt8) : Nat :=
  match rest with
  | [] => 1
  | second :: more =>
    if isSecond first second then 2 + (more.takeWhile isContinuation).length else 1

/-- The code of a character from its first byte and its continuation bytes. -/
def code (first : UInt8) (tail : List UInt8) : Nat :=
  let lead := match tail.length with
    | 0 => first.toNat
    | 1 => first.toNat - 0xC0
    | 2 => first.toNat - 0xE0
    | _ => first.toNat - 0xF0
  tail.foldl (fun n b => n * 64 + (b.toNat - 0x80)) lead

/-- Decodes bytes from an offset on, where `skip` bytes belong to a character that has been
decoded. -/
def decodeFrom (offset skip : Nat) : List UInt8 → Except Fault Text
  | [] => .ok []
  | b :: rest =>
    match skip with
    | skip + 1 => decodeFrom (offset + 1) skip rest
    | 0 =>
      let w := width b
      if w = 0 then .error (.undecodable offset [b] .start)
      else
        let tail := rest.take (w - 1)
        let good := if w = 1 then 1 else min w (wellBegun b tail)
        if good = w then do
          let t ← decodeFrom (offset + 1) (w - 1) rest
          return Char.ofNat (code b tail) :: t
        else if good = tail.length + 1 then .error (.undecodable offset (b :: tail) .endOfData)
        else .error (.undecodable offset (b :: tail.take (good - 1)) .continuation)

/-- The text that bytes encode. -/
def decode (bytes : List UInt8) : Except Fault Text := decodeFrom 0 0 bytes

end Dialogue.Utf8
