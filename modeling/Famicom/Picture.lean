import Famicom.Memory
import Famicom.Residue

namespace Famicom.Picture

structure Colour where
  red : Nat
  green : Nat
  blue : Nat

def colours : Vector Colour 64 := #v[
  ⟨84, 84, 84⟩, ⟨0, 30, 116⟩, ⟨8, 22, 147⟩, ⟨48, 12, 154⟩,
  ⟨92, 4, 121⟩, ⟨136, 6, 85⟩, ⟨147, 22, 34⟩, ⟨132, 48, 0⟩,
  ⟨76, 84, 0⟩, ⟨12, 102, 0⟩, ⟨0, 120, 44⟩, ⟨0, 106, 132⟩,
  ⟨0, 84, 136⟩, ⟨0, 0, 0⟩, ⟨0, 0, 0⟩, ⟨0, 0, 0⟩,
  ⟨160, 160, 160⟩, ⟨0, 70, 196⟩, ⟨48, 92, 255⟩, ⟨92, 70, 255⟩,
  ⟨136, 58, 255⟩, ⟨196, 78, 255⟩, ⟨204, 92, 204⟩, ⟨255, 114, 136⟩,
  ⟨255, 147, 84⟩, ⟨255, 173, 0⟩, ⟨216, 196, 0⟩, ⟨120, 214, 0⟩,
  ⟨0, 230, 116⟩, ⟨0, 196, 214⟩, ⟨0, 160, 255⟩, ⟨0, 0, 0⟩,
  ⟨255, 255, 255⟩, ⟨48, 152, 255⟩, ⟨120, 147, 255⟩, ⟨176, 138, 255⟩,
  ⟨220, 132, 255⟩, ⟨255, 152, 255⟩, ⟨255, 165, 214⟩, ⟨255, 188, 160⟩,
  ⟨255, 214, 136⟩, ⟨255, 234, 120⟩, ⟨255, 255, 160⟩, ⟨188, 255, 160⟩,
  ⟨120, 255, 188⟩, ⟨120, 255, 255⟩, ⟨120, 214, 255⟩, ⟨84, 84, 255⟩,
  ⟨255, 255, 255⟩, ⟨166, 230, 255⟩, ⟨188, 220, 255⟩, ⟨204, 214, 255⟩,
  ⟨214, 204, 255⟩, ⟨220, 204, 255⟩, ⟨214, 208, 230⟩, ⟨220, 214, 204⟩,
  ⟨234, 220, 196⟩, ⟨255, 230, 188⟩, ⟨240, 234, 196⟩, ⟨214, 240, 196⟩,
  ⟨188, 244, 214⟩, ⟨188, 244, 230⟩, ⟨188, 230, 244⟩, ⟨176, 176, 255⟩]

def Colour.luma (colour : Colour) : Nat :=
  (colour.red * 299 + colour.green * 587 + colour.blue * 114) / 1000

def luma (index : UInt8) : UInt8 :=
  UInt8.ofNat (colours.get (residue 64 index.toNat)).luma

def header : String := "P5\n256 240\n255\n"

def encode (picture : Memory 61440) : ByteArray :=
  (picture.toList.map luma).foldl ByteArray.push header.toUTF8

end Famicom.Picture
