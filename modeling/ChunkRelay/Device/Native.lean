import ChunkRelay.Act

/-! # The native device library

The calls that the program makes to the library of the operating system for input devices. A
handle is opened by ids or by path; reports go through it with their id as the first byte.
-/

namespace ChunkRelay

/-- A record of the native enumeration: named values, any of which may be missing. -/
abbrev DeviceRecord := List (String × Data)

/-- The native library on a platform `σ`. There is one handle at a time. -/
structure NativeLibrary (σ : Type) where
  /-- Open by vendor and product id, and by serial number if one is given. -/
  openIds (vendor product : Int) (serial : Data) : Call σ Unit
  openPath (path : List UInt8) : Call σ Unit
  close : Call σ Unit
  setNonblocking (nonblocking : Bool) : Call σ Unit
  /-- Read an input report, waiting at most the given number of milliseconds or, without one, as
      the mode of the handle says. -/
  read (size : Int) (timeoutMs? : Option Int) : Call σ (List UInt8)
  /-- Write a report; the answer is the number of bytes written, negative for a failure. -/
  write (bytes : List UInt8) : Call σ Int
  getFeature (id size : Int) : Call σ (List UInt8)
  enumerate (vendor product : Int) : Call σ (List DeviceRecord)

end ChunkRelay
