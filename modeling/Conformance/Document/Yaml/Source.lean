import Conformance.Document.Yaml.Cursor
import Conformance.Text.Newline

/-!
# The characters of a file

A file is not read at once. Bytes are turned into characters piece by piece, and the characters are
looked at portion by portion; a character that may not stand in a document spoils its whole portion,
and bytes that are no characters spoil the portion which is being filled. What was handed out before
is good. The first two portions are looked at together.
-/

namespace Conformance.Yaml

structure Feed where
  bytes : List UInt8
  /-- The bytes of a character that goes on in the next piece. -/
  cut : List UInt8 := []
  /-- Whether a carriage return is held back, because a line feed may follow it. -/
  held : Bool := false
  ready : List Char := []
  /-- The numbers of bytes and of characters of the last piece. -/
  last : Nat × Nat := (0, 0)

namespace Feed

def leastPiece : Nat := 8192

def portionSize : Nat := 4096

/-- The number of bytes to read for some characters, judged by the last piece. -/
def pieceSize (feed : Feed) (wanted : Nat) : Nat :=
  let (bytes, chars) := feed.last
  max leastPiece (if chars < bytes && chars != 0 then bytes * wanted / chars else wanted)

def refill (feed : Feed) (wanted : Nat) : Except Text.Utf8.Error (Feed × Bool) := do
  let piece := feed.bytes.take (feed.pieceSize wanted)
  let final := piece.isEmpty
  let (chars, cut) ← if final then do pure (← Text.Utf8.decode feed.cut, [])
    else Text.Utf8.decodePiece (feed.cut ++ piece)
  let joined := feed.held && (final || !chars.isEmpty)
  let chars := if joined then '\r' :: chars else chars
  let holds := !final && chars.getLast? == some '\r'
  let ready := Text.unifyNewlines (if holds then chars.dropLast else chars)
  return ({
    bytes := feed.bytes.drop piece.length
    cut
    held := holds || (feed.held && !joined)
    ready
    last := (piece.length, ready.length) }, final && ready.isEmpty)

def hand : (fuel wanted : Nat) → Feed → Except Text.Utf8.Error (List Char × Feed)
  | 0, _, feed => .ok ([], feed)
  | fuel + 1, wanted, feed => do
    let given := feed.ready.take wanted
    let feed := { feed with ready := feed.ready.drop given.length }
    if wanted ≤ given.length then return (given, feed)
    else
      let (feed, ended) ← feed.refill (wanted - given.length)
      if ended then return (given, feed)
      else
        let (more, feed) ← hand fuel (wanted - given.length) feed
        return (given ++ more, feed)

def portion (feed : Feed) : Except Text.Utf8.Error (List Char × Feed) :=
  hand (feed.bytes.length + 3) portionSize feed

/-- The portions after the first two, as long as they are good. -/
def later : (fuel : Nat) → Feed → List Char × Option Trouble
  | 0, _ => ([], none)
  | fuel + 1, feed =>
    match feed.portion with
    | .error e => ([], some (.encoding e))
    | .ok ([], _) => ([], none)
    | .ok (cs, feed) =>
      if cs.all isPrintable then
        let (more, trouble) := later fuel feed
        (cs ++ more, trouble)
      else ([], some (.defect .unprintable))

def opening (feed : Feed) : Except Text.Utf8.Error (List Char × Feed) := do
  let (first, feed) ← feed.portion
  let (second, feed) ← feed.portion
  return (first ++ second, feed)

end Feed

def sourceOf (bytes : List UInt8) : List Char × Option Trouble :=
  let feed : Feed := { bytes }
  match feed.opening with
  | .error e => ([], some (.encoding e))
  | .ok (cs, feed) =>
    if cs.all isPrintable then
      let (more, trouble) := feed.later (bytes.length + 1)
      (cs ++ more, trouble)
    else ([], some (.defect .unprintable))

end Conformance.Yaml
