import BioAuth.Lib.BigEndian
import BioAuth.Lib.Reassembly
import BioAuth.Session.Framing

namespace BioAuth.Agent
open BioAuth
open BioAuth.Session (IoError)
open BioAuth.Session.Framing (maxFrame)

namespace BleFraming

def headerBytes : Nat := 6
def maxChunks : Nat := 1024
def maxPartialFrames : Nat := 4

def invalid (message : String) : IoError := ⟨.invalidData, message⟩

/-- `slice::chunks`. -/
def slices (frame : Bytes) (size : Nat) : List Bytes :=
  (List.range ((frame.length + size - 1) / size)).map fun i => (frame.drop (i * size)).take size

end BleFraming

open BleFraming

structure BleFrameEncoder where
  nextFrameId : UInt16

namespace BleFrameEncoder

def new : BleFrameEncoder := ⟨0⟩

def encode (frame : Bytes) (attPayloadBytes : Nat) : Fallible BleFrameEncoder IoError (List Bytes) := do
  require (¬(frame = [] ∨ maxFrame < frame.length))
    ⟨.invalidInput, s!"refusing to write a {frame.length}-byte BLE frame"⟩
  require (headerBytes ≤ attPayloadBytes) ⟨.invalidInput, "BLE MTU is too small"⟩
  let dataBytes := attPayloadBytes - headerBytes
  require (dataBytes ≠ 0) ⟨.invalidInput, "BLE MTU is too small"⟩
  let total := (frame.length + dataBytes - 1) / dataBytes
  require (total ≤ maxChunks) ⟨.invalidInput, "BLE frame needs too many chunks"⟩
  let frameId := (← get).nextFrameId
  set (⟨frameId + 1⟩ : BleFrameEncoder)
  return (slices frame dataBytes).mapIdx fun index part =>
    BigEndian.encode 2 frameId.toNat ++ BigEndian.encode 2 index ++ BigEndian.encode 2 total ++ part

end BleFrameEncoder

structure PartialFrame where
  total : Nat
  chunks : Table Nat Bytes
  bytes : Nat

def PartialFrame.new (total : Nat) : PartialFrame := ⟨total, .empty, 0⟩

/-- The frames that are not complete, by their ids. -/
structure BleFrameDecoder where
  partialFrames : Table Nat PartialFrame

namespace BleFrameDecoder

def initial : BleFrameDecoder := ⟨.empty⟩

/-- Give a frame up, and say why. -/
def giveUp {α : Type} (frameId : Nat) (message : String) : Fallible BleFrameDecoder IoError α := do
  modify fun decoder => ⟨decoder.partialFrames.remove frameId⟩
  throw (invalid message)

def addChunk (chunk : Bytes) : Fallible BleFrameDecoder IoError (Option Bytes) := do
  require (headerBytes < chunk.length) (invalid "BLE chunk has no payload")
  let frameId := BigEndian.decode (chunk.take 2)
  let index := BigEndian.decode ((chunk.drop 2).take 2)
  let total := BigEndian.decode ((chunk.drop 4).take 2)
  require (¬(total = 0 ∨ maxChunks < total ∨ total ≤ index)) (invalid "BLE chunk header is invalid")
  let decoder ← get
  let held := decoder.partialFrames.get? frameId
  require (¬(held = none ∧ maxPartialFrames ≤ decoder.partialFrames.entries.length))
    (invalid "too many partial BLE frames")
  let frame := held.getD (PartialFrame.new total)
  if frame.total ≠ total ∨ frame.chunks.get? index ≠ none then
    giveUp frameId "inconsistent or duplicate BLE chunk"
  else
    let bytes := frame.bytes + (chunk.length - headerBytes)
    if maxFrame < bytes then
      giveUp frameId "BLE frame exceeds the size limit"
    else
      let chunks := frame.chunks.insert index (chunk.drop headerBytes)
      if chunks.entries.length ≠ total then
        set (⟨decoder.partialFrames.insert frameId { frame with chunks, bytes }⟩ : BleFrameDecoder)
        return none
      else
        set (⟨decoder.partialFrames.remove frameId⟩ : BleFrameDecoder)
        let parts ← ((List.range total).mapM fun index =>
          okOr (invalid "BLE frame is missing a chunk") (chunks.get? index) : Except IoError (List Bytes))
        return some parts.flatten

end BleFrameDecoder

end BioAuth.Agent
