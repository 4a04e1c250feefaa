import IngestCheck.Text.Utf8

namespace IngestCheck

def Bytes.characters (bytes : Bytes) : List Char := bytes.map fun b ↦ Char.ofNat b.toNat

def byteOf (c : Char) : UInt8 := c.toNat.toUInt8

def Bytes.ofCharacters (text : List Char) : Bytes := text.map byteOf

end IngestCheck
