import DeltaSignature.Command.Options
import DeltaSignature.Stream.Load
import DeltaSignature.Text.Json
import DeltaSignature.Text.Line

/-!
# Reports

What is printed about a signature that was loaded or written, as lines of text or as JSON, and
about the program itself.
-/

namespace DeltaSignature

namespace Command

/-- How JSON values are printed, and what is printed of a log line if lines down to some level are
wanted. -/
structure Printers where
  json : JsonValue → String
  log : Log.Level → Log.Line → String

/-- JSON over several lines, and each log line that matters enough on a line of its own. -/
def Printers.standard : Printers where
  json := JsonValue.render
  log wanted line := if line.level.rank ≤ wanted.rank then line.render ++ "\n" else ""

def figure (name value : String) : String :=
  Text.padRight 21 (name ++ ":") ++ value

def blockLine (blockLength : Nat) (block : Block) : String :=
  let number := Text.padLeft 8 (toString block.number)
  let offset := Text.padLeft 14 (toString (block.offset blockLength))
  s!"  {number}  {offset}  {Hex.ofWord block.weak}  {Hex.ofBytes block.strong}"

def signatureLines (path : String) (index : Index) (stats : Load.Stats) (listBlocks : Bool) :
    List String :=
  [ figure "file" path,
    figure "format" s!"0x{Hex.ofWord stats.tag} ({Format.nameOfTag stats.tag})",
    figure "block length" (toString stats.blockLength),
    figure "strong sum length" (toString stats.strongLength),
    figure "blocks" (toString stats.blocks),
    figure "distinct weak sums" (toString index.distinctWeak),
    figure "signature size" (toString stats.streamBytes) ] ++
  if listBlocks then index.blocks.map (blockLine index.params.blockLength) else []

def blockJson (block : Block) : JsonValue :=
  .object [
    ("index", .number block.number),
    ("strong", .string (Hex.ofBytes block.strong)),
    ("weak", .number block.weak.toNat)]

/-- A signature file as JSON, with the members in the order of their names. -/
def signatureJson (path : String) (index : Index) (stats : Load.Stats) (listBlocks : Bool) :
    JsonValue :=
  .object <|
    [("block_len", .number stats.blockLength)] ++
    (if listBlocks then [("block_list", .array (index.blocks.map blockJson))] else []) ++
    [ ("blocks", .number stats.blocks),
      ("distinct_weak", .number index.distinctWeak),
      ("file", .string path),
      ("format", .string (Format.nameOfTag stats.tag)),
      ("magic", .number stats.tag.toNat),
      ("signature_size", .number stats.streamBytes),
      ("strong_len", .number stats.strongLength)]

def signingLine (stats : Generator.Stats) : String :=
  s!"{program}: signature: basis size: {stats.basisBytes}, blocks: {stats.blocks}, "
    ++ s!"signature size: {stats.streamBytes}"

/-- A signature that was written as JSON, with the members in the order of their names. -/
def signingJson (layout : Layout) (stats : Generator.Stats) : JsonValue :=
  .object [
    ("basis_size", .number stats.basisBytes),
    ("block_len", .number layout.blockLength),
    ("blocks", .number stats.blocks),
    ("command", .string "signature"),
    ("reads", .number stats.window.reads),
    ("signature_size", .number stats.streamBytes),
    ("strong_len", .number layout.strongLength)]

def configLines : List String :=
  [ s!"{program} version {version} (Rust), Copyright (C) {program} contributors",
    "Licensed under the MIT License",
    "ADLER32_SIMD=1",
    "SHA256=1",
    "PARALLEL=0",
    s!"DEFAULT_BLOCK_LEN={Layout.standard.blockLength}",
    s!"DEFAULT_STRONG_LEN={Layout.standard.strongLength}",
    s!"MAX_STRONG_SUM_LEN={maxStrongLength}",
    s!"MAP_CHUNK_SIZE={SlidingWindow.Limits.standard.chunk}",
    s!"MAP_MAX_SIZE={SlidingWindow.Limits.standard.span}",
    "sizeof(usize)=8" ]

end Command

end DeltaSignature
