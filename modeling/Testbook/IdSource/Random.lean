import Testbook.Fingerprint
import Testbook.IdSource

/-! Random ids: UUIDs of version 4, drawn from a seed. Two of them agree no more often than two
fingerprints begin alike. -/

set_option autoImplicit false

namespace Testbook.IdSource

/-- Four words in the form of a UUID. Six bits of them give way to the version and the variant. -/
def uuid (a b c d : UInt32) : String :=
  let marked := (b &&& 0xffff0fff) ||| 0x4000
  let varied := (c &&& 0x3fffffff) ||| 0x80000000
  let groups :=
    [Hexadecimal.fixed 8 a.toNat,
      Hexadecimal.fixed 4 (marked >>> 16).toNat,
      Hexadecimal.fixed 4 marked.toNat,
      Hexadecimal.fixed 4 (varied >>> 16).toNat,
      Hexadecimal.fixed 4 varied.toNat ++ Hexadecimal.fixed 8 d.toNat]
  String.intercalate "-" (groups.map String.ofList)

/-- The ids of a seed: each is made from the seed and a number. -/
def random (seed : List UInt8) : IdSource where
  name n :=
    match Fingerprint.digest (seed ++ Fingerprint.bigEndian 8 n) with
    | a :: b :: c :: d :: _ => uuid a b c d
    | _ => ""
  issued := 0

end Testbook.IdSource
