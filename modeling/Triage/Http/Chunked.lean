import Triage.Http.Percent

namespace Triage.Http

/-!
# Bodies in chunks

A body may arrive in chunks: each has its size in hexadecimal digits on a line before it, and a chunk
of size zero ends the body.

* `ChunkReader` — what is due next.
* `dechunk?` — the bytes of a body that arrives in chunks, if it arrives whole.
-/

/-- What is due next. -/
inductive ChunkReader
  /-- The first digit of a size. -/
  | start
  /-- More digits of a size. -/
  | size (n : Nat)
  /-- The rest of a size line; `mayName` is false as long as only blanks have come. -/
  | line (n : Nat) (mayName : Bool)
  /-- The line feed after a size line. -/
  | lineFeed (n : Nat)
  /-- So many bytes of a chunk. -/
  | bytes (left : Nat)
  /-- The carriage return after a chunk. -/
  | chunkReturn
  /-- The line feed after a chunk. -/
  | chunkFeed
  /-- A line after the last chunk, where an empty one ends the body. -/
  | trailer
  /-- The rest of such a line. -/
  | trailerLine
  /-- The line feed after such a line. -/
  | trailerFeed
  /-- The last line feed. -/
  | lastFeed
  /-- The body is complete. -/
  | complete
  deriving DecidableEq, Repr

namespace ChunkReader

/-- A byte on the line of a size. -/
def onSizeLine (n : Nat) (c : Char) : Option ChunkReader :=
  match c with
  | '\t' | ' ' => some (.line n false)
  | ';' => some (.line n true)
  | '\r' => some (.lineFeed n)
  | _ => none

/-- One more byte, which is kept if it belongs to a chunk. -/
def step (reader : ChunkReader) (b : UInt8) : Option (List UInt8 × ChunkReader) :=
  let c := Char.ofNat b.toNat
  let go (next : ChunkReader) : Option (List UInt8 × ChunkReader) := some ([], next)
  match reader with
  | .start => (percentValue? c).bind fun digit => go (.size digit)
  | .size n =>
    match percentValue? c with
    | some digit => if n * 16 + digit < Nat.pow 2 64 then go (.size (n * 16 + digit)) else none
    | none => (onSizeLine n c).bind go
  | .line n false => (onSizeLine n c).bind go
  | .line n true => if c = '\r' then go (.lineFeed n) else if c = '\n' then none else go (.line n true)
  | .lineFeed n => if c ≠ '\n' then none else if n = 0 then go .trailer else go (.bytes n)
  | .bytes left => some ([b], if left ≤ 1 then .chunkReturn else .bytes (left - 1))
  | .chunkReturn => if c = '\r' then go .chunkFeed else none
  | .chunkFeed => if c = '\n' then go .start else none
  | .trailer => if c = '\r' then go .lastFeed else go .trailerLine
  | .trailerLine => if c = '\r' then go .trailerFeed else go .trailerLine
  | .trailerFeed => if c = '\n' then go .trailer else none
  | .lastFeed => if c = '\n' then go .complete else none
  | .complete => go .complete

/-- The bytes of the chunks, if the body becomes complete. -/
def read (reader : ChunkReader) : List UInt8 → Option (List UInt8)
  | [] => if reader = .complete then some [] else none
  | b :: rest => do
    let (kept, next) ← reader.step b
    (next.read rest).map (kept ++ ·)

end ChunkReader

/-- The bytes of a body that arrives in chunks. -/
def dechunk? (body : List UInt8) : Option (List UInt8) := ChunkReader.start.read body

end Triage.Http
