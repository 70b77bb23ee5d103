import RecordGraph.Json.Reader

namespace RecordGraph.Json

/-! Passing over whole values. A value that nobody asked for is skipped, however deeply it is
nested and whatever its strings and numbers mean. A value that is wanted later is kept: it has to
be in order, and to fit into the room that is left. -/

inductive Container where
  | list
  | record

inductive Ahead where
  | value
  /-- An element or a member, or the end of what has just been opened. -/
  | opened
  /-- The name of a member. -/
  | name
  /-- What follows a value that is complete. -/
  | closed

def passScalar (strict : Bool) : Bytes → Except Flaw Bytes
  | 0x6E :: rest => expect [0x75, 0x6C, 0x6C] rest
  | 0x74 :: rest => expect [0x72, 0x75, 0x65] rest
  | 0x66 :: rest => expect [0x61, 0x6C, 0x73, 0x65] rest
  | 0x22 :: rest =>
      if strict then (readStringTail rest).map (·.2) else skipStringTail (rest.length + 1) rest
  | byte :: rest =>
      if byte = 0x2D ∨ isDigit byte then
        if strict then (readNumber (byte :: rest)).map (·.2)
        else (readNumeral .malformed (byte :: rest)).map (·.2)
      else .error .malformed
  | [] => .error .unfinished

def passName (strict : Bool) (input : Bytes) : Except Flaw Bytes :=
  if strict then (readStringTail input).map (·.2) else skipStringTail (input.length + 1) input

/-- The rest of a text after one value. `limit` is the room for lists and records; without a limit
the value is only skipped. -/
def passOver (limit : Option Nat) :
    (fuel : Nat) → (stack : List Container) → Ahead → Bytes → Except Flaw Bytes
  | 0, _, _, _ => .error .unfinished
  | fuel + 1, stack, .value, input =>
      let full := limit.any fun room => decide (room ≤ stack.length)
      match skipBlanks input with
      | 0x5B :: rest =>
          if full then .error .malformed else passOver limit fuel (.list :: stack) .opened rest
      | 0x7B :: rest =>
          if full then .error .malformed else passOver limit fuel (.record :: stack) .opened rest
      | other => do
          let rest ← passScalar limit.isSome other
          passOver limit fuel stack .closed rest
  | fuel + 1, .list :: stack, .opened, input =>
      match skipBlanks input with
      | [] => .error .unfinished
      | 0x5D :: rest => passOver limit fuel stack .closed rest
      | other => passOver limit fuel (.list :: stack) .value other
  | fuel + 1, .record :: stack, .opened, input =>
      match skipBlanks input with
      | [] => .error .unfinished
      | 0x7D :: rest => passOver limit fuel stack .closed rest
      | other => passOver limit fuel (.record :: stack) .name other
  | _ + 1, [], .opened, input => .ok input
  | fuel + 1, stack, .name, input =>
      match skipBlanks input with
      | [] => .error .unfinished
      | 0x22 :: rest => do
          let rest ← passName limit.isSome rest
          let rest ← readColon rest
          passOver limit fuel stack .value rest
      | _ => .error .malformed
  | _ + 1, [], .closed, input => .ok input
  | fuel + 1, .list :: stack, .closed, input =>
      match skipBlanks input with
      | [] => .error .unfinished
      | 0x2C :: rest => passOver limit fuel (.list :: stack) .value rest
      | 0x5D :: rest => passOver limit fuel stack .closed rest
      | _ => .error .malformed
  | fuel + 1, .record :: stack, .closed, input =>
      match skipBlanks input with
      | [] => .error .unfinished
      | 0x2C :: rest => passOver limit fuel (.record :: stack) .name rest
      | 0x7D :: rest => passOver limit fuel stack .closed rest
      | _ => .error .malformed

/-- Enough steps to pass over any value of a text: at most three for each byte. -/
def stepsFor (input : Bytes) : Nat := 3 * input.length + 3

def skipValue (input : Bytes) : Except Flaw Bytes :=
  passOver none (stepsFor input) [] .value input

def keepValue : Reader Bytes := fun setting input => do
  let start := skipBlanks input
  let rest ← passOver (some setting.room) (stepsFor start) [] .value start
  .ok (start.take (start.length - rest.length), rest)

end RecordGraph.Json
