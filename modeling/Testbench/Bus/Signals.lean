/-! The signals of one memory channel in one cycle. -/

namespace Testbench

/-- A read or write request, as the design shows it on an address channel. -/
structure AddressRequest where
  valid : Bool := false
  address : UInt64 := 0
  id : UInt64 := 0
  /-- The base-two logarithm of the bytes moved by one beat. -/
  size : UInt8 := 0
  /-- The position of the last beat, which is one less than the number of beats. -/
  lastBeat : UInt8 := 0
  deriving DecidableEq, Inhabited

/-- One beat of write data, as the design shows it. -/
structure WriteBeat where
  valid : Bool := false
  /-- The bytes of the bus, lane zero first. -/
  data : List UInt8 := []
  /-- Bit `i` lets lane `i` be stored. -/
  strobe : UInt64 := 0
  last : Bool := false
  deriving DecidableEq, Inhabited

/-- The acknowledgement of a finished write burst. -/
structure WriteAnswer where
  valid : Bool := false
  code : UInt8 := 0
  id : UInt64 := 0
  deriving DecidableEq, Inhabited

/-- One beat of read data. -/
structure ReadBeat where
  valid : Bool := false
  code : UInt8 := 0
  id : UInt64 := 0
  data : List UInt8 := []
  last : Bool := false
  deriving DecidableEq, Inhabited

/-- The number of beats that a request asks for. -/
def AddressRequest.beats (request : AddressRequest) : Nat :=
  request.lastBeat.toNat + 1

/-- Everything the design shows on one channel. -/
structure Offers where
  read : AddressRequest := {}
  write : AddressRequest := {}
  beat : WriteBeat := {}
  /-- The design takes the read beat shown to it. -/
  takesRead : Bool := false
  /-- The design takes the write answer shown to it. -/
  takesAnswer : Bool := false
  deriving DecidableEq, Inhabited

/-- Which of the three kinds of offer a memory would accept. -/
structure Ready where
  read : Bool := false
  write : Bool := false
  beat : Bool := false
  deriving DecidableEq, Inhabited

/-- Everything a memory shows to the design on one channel. -/
structure Presented where
  ready : Ready := {}
  answer : WriteAnswer := {}
  readBeat : ReadBeat := {}
  deriving DecidableEq, Inhabited

/-- The code of a transaction that went well. -/
def okayCode : UInt8 := 0

end Testbench
