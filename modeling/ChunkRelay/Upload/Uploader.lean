import ChunkRelay.Act

/-! # Uploaders

Where the chunks of the stream go: to an address, under an authorization, one at a time.
-/

namespace ChunkRelay

/-- Something that delivers chunks, as an action on a world that it is part of. -/
structure Uploader (ω : Type) where
  /-- Deliver a chunk; the answer is the status of a successful delivery. -/
  deliver (uri authorization : String) (payload : List UInt8) : Act ω Int

def Uploader.within (part : Focus ω τ) (u : Uploader τ) : Uploader ω where
  deliver uri authorization payload := (u.deliver uri authorization payload).within part

end ChunkRelay
