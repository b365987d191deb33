import ChunkRelay.Act

/-! # Transports

The way reports travel to and from a device. Report ids are passed beside the bytes. A timeout of
zero polls, a negative one waits for ever and a positive one waits that many milliseconds.
-/

namespace ChunkRelay

/-- What a transport can do, as actions on a world that its device is part of. -/
structure Transport (ω : Type) where
  openDevice : Act ω Unit
  closeDevice : Act ω Unit
  isOpen : ω → Bool
  /-- Read the feature report `id`, of which at most `limit` bytes are wanted. -/
  readFeature (id limit timeoutMs : Int) : Act ω (List UInt8)
  /-- Write an output report; the answer is the number of bytes written. -/
  writeOutput (id : Int) (bytes : List UInt8) (timeoutMs : Int) : Act ω Int
  /-- Wait for an input report, of which at most `limit` bytes are wanted. -/
  readInput (limit timeoutMs : Int) : Act ω (Int × List UInt8)

def Transport.within (part : Focus ω τ) (t : Transport τ) : Transport ω where
  openDevice := t.openDevice.within part
  closeDevice := t.closeDevice.within part
  isOpen w := t.isOpen (part.get w)
  readFeature id limit timeoutMs := (t.readFeature id limit timeoutMs).within part
  writeOutput id bytes timeoutMs := (t.writeOutput id bytes timeoutMs).within part
  readInput limit timeoutMs := (t.readInput limit timeoutMs).within part

end ChunkRelay
