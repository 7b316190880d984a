import SingQuic.Lib.PrefixCode

/-! The Huffman code of header strings, as the encoder and the decoder have it: a row
for each byte on one side, nested lookup tables on the other. Both spell the same code. -/
namespace SingQuic.Qpack
open PrefixCode

/-- The bits of a symbol, eight in each part but the last, which holds its own at the low end. -/
structure EncodeValue where
  bitCount : Nat
  buffer : List UInt8

def hpackStringEncoder : List EncodeValue := [
  ⟨13, [0b1111_1111, 0b0001_1000]⟩,
  ⟨23, [0b1111_1111, 0b1111_1111, 0b0101_1000]⟩,
  ⟨28, [0b1111_1111, 0b1111_1111, 0b1111_1110, 0b0000_0010]⟩,
  ⟨28, [0b1111_1111, 0b1111_1111, 0b1111_1110, 0b0000_0011]⟩,
  ⟨28, [0b1111_1111, 0b1111_1111, 0b1111_1110, 0b0000_0100]⟩,
  ⟨28, [0b1111_1111, 0b1111_1111, 0b1111_1110, 0b0000_0101]⟩,
  ⟨28, [0b1111_1111, 0b1111_1111, 0b1111_1110, 0b0000_0110]⟩,
  ⟨28, [0b1111_1111, 0b1111_1111, 0b1111_1110, 0b0000_0111]⟩,
  ⟨28, [0b1111_1111, 0b1111_1111, 0b1111_1110, 0b0000_1000]⟩,
  ⟨24, [0b1111_1111, 0b1111_1111, 0b1110_1010]⟩,
  ⟨30, [0b1111_1111, 0b1111_1111, 0b1111_1111, 0b0011_1100]⟩,
  ⟨28, [0b1111_1111, 0b1111_1111, 0b1111_1110, 0b0000_1001]⟩,
  ⟨28, [0b1111_1111, 0b1111_1111, 0b1111_1110, 0b0000_1010]⟩,
  ⟨30, [0b1111_1111, 0b1111_1111, 0b1111_1111, 0b0011_1101]⟩,
  ⟨28, [0b1111_1111, 0b1111_1111, 0b1111_1110, 0b0000_1011]⟩,
  ⟨28, [0b1111_1111, 0b1111_1111, 0b1111_1110, 0b0000_1100]⟩,
  ⟨28, [0b1111_1111, 0b1111_1111, 0b1111_1110, 0b0000_1101]⟩,
  ⟨28, [0b1111_1111, 0b1111_1111, 0b1111_1110, 0b0000_1110]⟩,
  ⟨28, [0b1111_1111, 0b1111_1111, 0b1111_1110, 0b0000_1111]⟩,
  ⟨28, [0b1111_1111, 0b1111_1111, 0b1111_1111, 0b0000_0000]⟩,
  ⟨28, [0b1111_1111, 0b1111_1111, 0b1111_1111, 0b0000_0001]⟩,
  ⟨28, [0b1111_1111, 0b1111_1111, 0b1111_1111, 0b0000_0010]⟩,
  ⟨30, [0b1111_1111, 0b1111_1111, 0b1111_1111, 0b0011_1110]⟩,
  ⟨28, [0b1111_1111, 0b1111_1111, 0b1111_1111, 0b0000_0011]⟩,
  ⟨28, [0b1111_1111, 0b1111_1111, 0b1111_1111, 0b0000_0100]⟩,
  ⟨28, [0b1111_1111, 0b1111_1111, 0b1111_1111, 0b0000_0101]⟩,
  ⟨28, [0b1111_1111, 0b1111_1111, 0b1111_1111, 0b0000_0110]⟩,
  ⟨28, [0b1111_1111, 0b1111_1111, 0b1111_1111, 0b0000_0111]⟩,
  ⟨28, [0b1111_1111, 0b1111_1111, 0b1111_1111, 0b0000_1000]⟩,
  ⟨28, [0b1111_1111, 0b1111_1111, 0b1111_1111, 0b0000_1001]⟩,
  ⟨28, [0b1111_1111, 0b1111_1111, 0b1111_1111, 0b0000_1010]⟩,
  ⟨28, [0b1111_1111, 0b1111_1111, 0b1111_1111, 0b0000_1011]⟩,
  ⟨6, [0b0001_0100]⟩,
  ⟨10, [0b1111_1110, 0b0000_0000]⟩,
  ⟨10, [0b1111_1110, 0b0000_0001]⟩,
  ⟨12, [0b1111_1111, 0b0000_1010]⟩,
  ⟨13, [0b1111_1111, 0b0001_1001]⟩,
  ⟨6, [0b0001_0101]⟩,
  ⟨8, [0b1111_1000]⟩,
  ⟨11, [0b1111_1111, 0b0000_0010]⟩,
  ⟨10, [0b1111_1110, 0b0000_0010]⟩,
  ⟨10, [0b1111_1110, 0b0000_0011]⟩,
  ⟨8, [0b1111_1001]⟩,
  ⟨11, [0b1111_1111, 0b0000_0011]⟩,
  ⟨8, [0b1111_1010]⟩,
  ⟨6, [0b0001_0110]⟩,
  ⟨6, [0b0001_0111]⟩,
  ⟨6, [0b0001_1000]⟩,
  ⟨5, [0b0000_0000]⟩,
  ⟨5, [0b0000_0001]⟩,
  ⟨5, [0b0000_0010]⟩,
  ⟨6, [0b0001_1001]⟩,
  ⟨6, [0b0001_1010]⟩,
  ⟨6, [0b0001_1011]⟩,
  ⟨6, [0b0001_1100]⟩,
  ⟨6, [0b0001_1101]⟩,
  ⟨6, [0b0001_1110]⟩,
  ⟨6, [0b0001_1111]⟩,
  ⟨7, [0b0101_1100]⟩,
  ⟨8, [0b1111_1011]⟩,
  ⟨15, [0b1111_1111, 0b0111_1100]⟩,
  ⟨6, [0b0010_0000]⟩,
  ⟨12, [0b1111_1111, 0b0000_1011]⟩,
  ⟨10, [0b1111_1111, 0b0000_0000]⟩,
  ⟨13, [0b1111_1111, 0b0001_1010]⟩,
  ⟨6, [0b0010_0001]⟩,
  ⟨7, [0b0101_1101]⟩,
  ⟨7, [0b0101_1110]⟩,
  ⟨7, [0b0101_1111]⟩,
  ⟨7, [0b0110_0000]⟩,
  ⟨7, [0b0110_0001]⟩,
  ⟨7, [0b0110_0010]⟩,
  ⟨7, [0b0110_0011]⟩,
  ⟨7, [0b0110_0100]⟩,
  ⟨7, [0b0110_0101]⟩,
  ⟨7, [0b0110_0110]⟩,
  ⟨7, [0b0110_0111]⟩,
  ⟨7, [0b0110_1000]⟩,
  ⟨7, [0b0110_1001]⟩,
  ⟨7, [0b0110_1010]⟩,
  ⟨7, [0b0110_1011]⟩,
  ⟨7, [0b0110_1100]⟩,
  ⟨7, [0b0110_1101]⟩,
  ⟨7, [0b0110_1110]⟩,
  ⟨7, [0b0110_1111]⟩,
  ⟨7, [0b0111_0000]⟩,
  ⟨7, [0b0111_0001]⟩,
  ⟨7, [0b0111_0010]⟩,
  ⟨8, [0b1111_1100]⟩,
  ⟨7, [0b0111_0011]⟩,
  ⟨8, [0b1111_1101]⟩,
  ⟨13, [0b1111_1111, 0b0001_1011]⟩,
  ⟨19, [0b1111_1111, 0b1111_1110, 0b0000_0000]⟩,
  ⟨13, [0b1111_1111, 0b0001_1100]⟩,
  ⟨14, [0b1111_1111, 0b0011_1100]⟩,
  ⟨6, [0b0010_0010]⟩,
  ⟨15, [0b1111_1111, 0b0111_1101]⟩,
  ⟨5, [0b0000_0011]⟩,
  ⟨6, [0b0010_0011]⟩,
  ⟨5, [0b0000_0100]⟩,
  ⟨6, [0b0010_0100]⟩,
  ⟨5, [0b0000_0101]⟩,
  ⟨6, [0b0010_0101]⟩,
  ⟨6, [0b0010_0110]⟩,
  ⟨6, [0b0010_0111]⟩,
  ⟨5, [0b0000_0110]⟩,
  ⟨7, [0b0111_0100]⟩,
  ⟨7, [0b0111_0101]⟩,
  ⟨6, [0b0010_1000]⟩,
  ⟨6, [0b0010_1001]⟩,
  ⟨6, [0b0010_1010]⟩,
  ⟨5, [0b0000_0111]⟩,
  ⟨6, [0b0010_1011]⟩,
  ⟨7, [0b0111_0110]⟩,
  ⟨6, [0b0010_1100]⟩,
  ⟨5, [0b0000_1000]⟩,
  ⟨5, [0b0000_1001]⟩,
  ⟨6, [0b0010_1101]⟩,
  ⟨7, [0b0111_0111]⟩,
  ⟨7, [0b0111_1000]⟩,
  ⟨7, [0b0111_1001]⟩,
  ⟨7, [0b0111_1010]⟩,
  ⟨7, [0b0111_1011]⟩,
  ⟨15, [0b1111_1111, 0b0111_1110]⟩,
  ⟨11, [0b1111_1111, 0b0000_0100]⟩,
  ⟨14, [0b1111_1111, 0b0011_1101]⟩,
  ⟨13, [0b1111_1111, 0b0001_1101]⟩,
  ⟨28, [0b1111_1111, 0b1111_1111, 0b1111_1111, 0b0000_1100]⟩,
  ⟨20, [0b1111_1111, 0b1111_1110, 0b0000_0110]⟩,
  ⟨22, [0b1111_1111, 0b1111_1111, 0b0001_0010]⟩,
  ⟨20, [0b1111_1111, 0b1111_1110, 0b0000_0111]⟩,
  ⟨20, [0b1111_1111, 0b1111_1110, 0b0000_1000]⟩,
  ⟨22, [0b1111_1111, 0b1111_1111, 0b0001_0011]⟩,
  ⟨22, [0b1111_1111, 0b1111_1111, 0b0001_0100]⟩,
  ⟨22, [0b1111_1111, 0b1111_1111, 0b0001_0101]⟩,
  ⟨23, [0b1111_1111, 0b1111_1111, 0b0101_1001]⟩,
  ⟨22, [0b1111_1111, 0b1111_1111, 0b0001_0110]⟩,
  ⟨23, [0b1111_1111, 0b1111_1111, 0b0101_1010]⟩,
  ⟨23, [0b1111_1111, 0b1111_1111, 0b0101_1011]⟩,
  ⟨23, [0b1111_1111, 0b1111_1111, 0b0101_1100]⟩,
  ⟨23, [0b1111_1111, 0b1111_1111, 0b0101_1101]⟩,
  ⟨23, [0b1111_1111, 0b1111_1111, 0b0101_1110]⟩,
  ⟨24, [0b1111_1111, 0b1111_1111, 0b1110_1011]⟩,
  ⟨23, [0b1111_1111, 0b1111_1111, 0b0101_1111]⟩,
  ⟨24, [0b1111_1111, 0b1111_1111, 0b1110_1100]⟩,
  ⟨24, [0b1111_1111, 0b1111_1111, 0b1110_1101]⟩,
  ⟨22, [0b1111_1111, 0b1111_1111, 0b0001_0111]⟩,
  ⟨23, [0b1111_1111, 0b1111_1111, 0b0110_0000]⟩,
  ⟨24, [0b1111_1111, 0b1111_1111, 0b1110_1110]⟩,
  ⟨23, [0b1111_1111, 0b1111_1111, 0b0110_0001]⟩,
  ⟨23, [0b1111_1111, 0b1111_1111, 0b0110_0010]⟩,
  ⟨23, [0b1111_1111, 0b1111_1111, 0b0110_0011]⟩,
  ⟨23, [0b1111_1111, 0b1111_1111, 0b0110_0100]⟩,
  ⟨21, [0b1111_1111, 0b1111_1110, 0b0001_1100]⟩,
  ⟨22, [0b1111_1111, 0b1111_1111, 0b0001_1000]⟩,
  ⟨23, [0b1111_1111, 0b1111_1111, 0b0110_0101]⟩,
  ⟨22, [0b1111_1111, 0b1111_1111, 0b0001_1001]⟩,
  ⟨23, [0b1111_1111, 0b1111_1111, 0b0110_0110]⟩,
  ⟨23, [0b1111_1111, 0b1111_1111, 0b0110_0111]⟩,
  ⟨24, [0b1111_1111, 0b1111_1111, 0b1110_1111]⟩,
  ⟨22, [0b1111_1111, 0b1111_1111, 0b0001_1010]⟩,
  ⟨21, [0b1111_1111, 0b1111_1110, 0b0001_1101]⟩,
  ⟨20, [0b1111_1111, 0b1111_1110, 0b0000_1001]⟩,
  ⟨22, [0b1111_1111, 0b1111_1111, 0b0001_1011]⟩,
  ⟨22, [0b1111_1111, 0b1111_1111, 0b0001_1100]⟩,
  ⟨23, [0b1111_1111, 0b1111_1111, 0b0110_1000]⟩,
  ⟨23, [0b1111_1111, 0b1111_1111, 0b0110_1001]⟩,
  ⟨21, [0b1111_1111, 0b1111_1110, 0b0001_1110]⟩,
  ⟨23, [0b1111_1111, 0b1111_1111, 0b0110_1010]⟩,
  ⟨22, [0b1111_1111, 0b1111_1111, 0b0001_1101]⟩,
  ⟨22, [0b1111_1111, 0b1111_1111, 0b0001_1110]⟩,
  ⟨24, [0b1111_1111, 0b1111_1111, 0b1111_0000]⟩,
  ⟨21, [0b1111_1111, 0b1111_1110, 0b0001_1111]⟩,
  ⟨22, [0b1111_1111, 0b1111_1111, 0b0001_1111]⟩,
  ⟨23, [0b1111_1111, 0b1111_1111, 0b0110_1011]⟩,
  ⟨23, [0b1111_1111, 0b1111_1111, 0b0110_1100]⟩,
  ⟨21, [0b1111_1111, 0b1111_1111, 0b0000_0000]⟩,
  ⟨21, [0b1111_1111, 0b1111_1111, 0b0000_0001]⟩,
  ⟨22, [0b1111_1111, 0b1111_1111, 0b0010_0000]⟩,
  ⟨21, [0b1111_1111, 0b1111_1111, 0b0000_0010]⟩,
  ⟨23, [0b1111_1111, 0b1111_1111, 0b0110_1101]⟩,
  ⟨22, [0b1111_1111, 0b1111_1111, 0b0010_0001]⟩,
  ⟨23, [0b1111_1111, 0b1111_1111, 0b0110_1110]⟩,
  ⟨23, [0b1111_1111, 0b1111_1111, 0b0110_1111]⟩,
  ⟨20, [0b1111_1111, 0b1111_1110, 0b0000_1010]⟩,
  ⟨22, [0b1111_1111, 0b1111_1111, 0b0010_0010]⟩,
  ⟨22, [0b1111_1111, 0b1111_1111, 0b0010_0011]⟩,
  ⟨22, [0b1111_1111, 0b1111_1111, 0b0010_0100]⟩,
  ⟨23, [0b1111_1111, 0b1111_1111, 0b0111_0000]⟩,
  ⟨22, [0b1111_1111, 0b1111_1111, 0b0010_0101]⟩,
  ⟨22, [0b1111_1111, 0b1111_1111, 0b0010_0110]⟩,
  ⟨23, [0b1111_1111, 0b1111_1111, 0b0111_0001]⟩,
  ⟨26, [0b1111_1111, 0b1111_1111, 0b1111_1000, 0b0000_0000]⟩,
  ⟨26, [0b1111_1111, 0b1111_1111, 0b1111_1000, 0b0000_0001]⟩,
  ⟨20, [0b1111_1111, 0b1111_1110, 0b0000_1011]⟩,
  ⟨19, [0b1111_1111, 0b1111_1110, 0b0000_0001]⟩,
  ⟨22, [0b1111_1111, 0b1111_1111, 0b0010_0111]⟩,
  ⟨23, [0b1111_1111, 0b1111_1111, 0b0111_0010]⟩,
  ⟨22, [0b1111_1111, 0b1111_1111, 0b0010_1000]⟩,
  ⟨25, [0b1111_1111, 0b1111_1111, 0b1111_0110, 0b0000_0000]⟩,
  ⟨26, [0b1111_1111, 0b1111_1111, 0b1111_1000, 0b0000_0010]⟩,
  ⟨26, [0b1111_1111, 0b1111_1111, 0b1111_1000, 0b0000_0011]⟩,
  ⟨26, [0b1111_1111, 0b1111_1111, 0b1111_1001, 0b0000_0000]⟩,
  ⟨27, [0b1111_1111, 0b1111_1111, 0b1111_1011, 0b0000_0110]⟩,
  ⟨27, [0b1111_1111, 0b1111_1111, 0b1111_1011, 0b0000_0111]⟩,
  ⟨26, [0b1111_1111, 0b1111_1111, 0b1111_1001, 0b0000_0001]⟩,
  ⟨24, [0b1111_1111, 0b1111_1111, 0b1111_0001]⟩,
  ⟨25, [0b1111_1111, 0b1111_1111, 0b1111_0110, 0b0000_0001]⟩,
  ⟨19, [0b1111_1111, 0b1111_1110, 0b0000_0010]⟩,
  ⟨21, [0b1111_1111, 0b1111_1111, 0b0000_0011]⟩,
  ⟨26, [0b1111_1111, 0b1111_1111, 0b1111_1001, 0b0000_0010]⟩,
  ⟨27, [0b1111_1111, 0b1111_1111, 0b1111_1100, 0b0000_0000]⟩,
  ⟨27, [0b1111_1111, 0b1111_1111, 0b1111_1100, 0b0000_0001]⟩,
  ⟨26, [0b1111_1111, 0b1111_1111, 0b1111_1001, 0b0000_0011]⟩,
  ⟨27, [0b1111_1111, 0b1111_1111, 0b1111_1100, 0b0000_0010]⟩,
  ⟨24, [0b1111_1111, 0b1111_1111, 0b1111_0010]⟩,
  ⟨21, [0b1111_1111, 0b1111_1111, 0b0000_0100]⟩,
  ⟨21, [0b1111_1111, 0b1111_1111, 0b0000_0101]⟩,
  ⟨26, [0b1111_1111, 0b1111_1111, 0b1111_1010, 0b0000_0000]⟩,
  ⟨26, [0b1111_1111, 0b1111_1111, 0b1111_1010, 0b0000_0001]⟩,
  ⟨28, [0b1111_1111, 0b1111_1111, 0b1111_1111, 0b0000_1101]⟩,
  ⟨27, [0b1111_1111, 0b1111_1111, 0b1111_1100, 0b0000_0011]⟩,
  ⟨27, [0b1111_1111, 0b1111_1111, 0b1111_1100, 0b0000_0100]⟩,
  ⟨27, [0b1111_1111, 0b1111_1111, 0b1111_1100, 0b0000_0101]⟩,
  ⟨20, [0b1111_1111, 0b1111_1110, 0b0000_1100]⟩,
  ⟨24, [0b1111_1111, 0b1111_1111, 0b1111_0011]⟩,
  ⟨20, [0b1111_1111, 0b1111_1110, 0b0000_1101]⟩,
  ⟨21, [0b1111_1111, 0b1111_1111, 0b0000_0110]⟩,
  ⟨22, [0b1111_1111, 0b1111_1111, 0b0010_1001]⟩,
  ⟨21, [0b1111_1111, 0b1111_1111, 0b0000_0111]⟩,
  ⟨21, [0b1111_1111, 0b1111_1111, 0b0000_1000]⟩,
  ⟨23, [0b1111_1111, 0b1111_1111, 0b0111_0011]⟩,
  ⟨22, [0b1111_1111, 0b1111_1111, 0b0010_1010]⟩,
  ⟨22, [0b1111_1111, 0b1111_1111, 0b0010_1011]⟩,
  ⟨25, [0b1111_1111, 0b1111_1111, 0b1111_0111, 0b0000_0000]⟩,
  ⟨25, [0b1111_1111, 0b1111_1111, 0b1111_0111, 0b0000_0001]⟩,
  ⟨24, [0b1111_1111, 0b1111_1111, 0b1111_0100]⟩,
  ⟨24, [0b1111_1111, 0b1111_1111, 0b1111_0101]⟩,
  ⟨26, [0b1111_1111, 0b1111_1111, 0b1111_1010, 0b0000_0010]⟩,
  ⟨23, [0b1111_1111, 0b1111_1111, 0b0111_0100]⟩,
  ⟨26, [0b1111_1111, 0b1111_1111, 0b1111_1010, 0b0000_0011]⟩,
  ⟨27, [0b1111_1111, 0b1111_1111, 0b1111_1100, 0b0000_0110]⟩,
  ⟨26, [0b1111_1111, 0b1111_1111, 0b1111_1011, 0b0000_0000]⟩,
  ⟨26, [0b1111_1111, 0b1111_1111, 0b1111_1011, 0b0000_0001]⟩,
  ⟨27, [0b1111_1111, 0b1111_1111, 0b1111_1100, 0b0000_0111]⟩,
  ⟨27, [0b1111_1111, 0b1111_1111, 0b1111_1101, 0b0000_0000]⟩,
  ⟨27, [0b1111_1111, 0b1111_1111, 0b1111_1101, 0b0000_0001]⟩,
  ⟨27, [0b1111_1111, 0b1111_1111, 0b1111_1101, 0b0000_0010]⟩,
  ⟨27, [0b1111_1111, 0b1111_1111, 0b1111_1101, 0b0000_0011]⟩,
  ⟨28, [0b1111_1111, 0b1111_1111, 0b1111_1111, 0b0000_1110]⟩,
  ⟨27, [0b1111_1111, 0b1111_1111, 0b1111_1101, 0b0000_0100]⟩,
  ⟨27, [0b1111_1111, 0b1111_1111, 0b1111_1101, 0b0000_0101]⟩,
  ⟨27, [0b1111_1111, 0b1111_1111, 0b1111_1101, 0b0000_0110]⟩,
  ⟨27, [0b1111_1111, 0b1111_1111, 0b1111_1101, 0b0000_0111]⟩,
  ⟨27, [0b1111_1111, 0b1111_1111, 0b1111_1110, 0b0000_0000]⟩,
  ⟨26, [0b1111_1111, 0b1111_1111, 0b1111_1011, 0b0000_0010]⟩]

/-- `Sym` is a leaf, `Partial` the node of the decoder it refers to. -/
abbrev HuffmanDecoder := CodeTree UInt8

def sym (value : UInt8) : HuffmanDecoder := .leaf value

def ascii (character : Char) : HuffmanDecoder := sym (UInt8.ofNat character.toNat)

-- The decoders stand in the reverse of their order in the source, each after those it refers to.

def eof : HuffmanDecoder := .node 8 []
def end31_1 : HuffmanDecoder := .node 2 [sym 10, sym 13, sym 22, eof]
def end27B_1111 : HuffmanDecoder := .node 1 [sym 249, end31_1]
def end27B_1110 : HuffmanDecoder := .node 1 [sym 127, sym 220]
def end27B_1101 : HuffmanDecoder := .node 1 [sym 30, sym 31]
def end27B_1100 : HuffmanDecoder := .node 1 [sym 28, sym 29]
def end27B_1011 : HuffmanDecoder := .node 1 [sym 26, sym 27]
def end27B_1010 : HuffmanDecoder := .node 1 [sym 24, sym 25]
def end27B_1001 : HuffmanDecoder := .node 1 [sym 21, sym 23]
def end27B_1000 : HuffmanDecoder := .node 1 [sym 19, sym 20]
def end27B_0111 : HuffmanDecoder := .node 1 [sym 17, sym 18]
def end27B_0110 : HuffmanDecoder := .node 1 [sym 15, sym 16]
def end27B_0101 : HuffmanDecoder := .node 1 [sym 12, sym 14]
def end27B_0100 : HuffmanDecoder := .node 1 [sym 8, sym 11]
def end27B_0011 : HuffmanDecoder := .node 1 [sym 6, sym 7]
def end27B_0010 : HuffmanDecoder := .node 1 [sym 4, sym 5]
def end27B_0001 : HuffmanDecoder := .node 1 [sym 2, sym 3]
def end23B_1111 : HuffmanDecoder := .node 4 [sym 254, end27B_0001, end27B_0010, end27B_0011,
    end27B_0100, end27B_0101, end27B_0110, end27B_0111, end27B_1000, end27B_1001, end27B_1010,
    end27B_1011, end27B_1100, end27B_1101, end27B_1110, end27B_1111]
def end23B_1110 : HuffmanDecoder := .node 4 [sym 211, sym 212, sym 214, sym 221, sym 222, sym 223,
    sym 241, sym 244, sym 245, sym 246, sym 247, sym 248, sym 250, sym 251, sym 252, sym 253]
def end27A_111 : HuffmanDecoder := .node 1 [sym 203, sym 204]
def end23B_1101 : HuffmanDecoder := .node 3 [sym 218, sym 219, sym 238, sym 240, sym 242, sym 243,
    sym 255, end27A_111]
def end23B_1100 : HuffmanDecoder := .node 3 [sym 192, sym 193, sym 200, sym 201, sym 202, sym 205,
    sym 210, sym 213]
def end23B_1011 : HuffmanDecoder := .node 2 [sym 199, sym 207, sym 234, sym 235]
def end23B_1010 : HuffmanDecoder := .node 1 [sym 236, sym 237]
def end23B_1001 : HuffmanDecoder := .node 1 [sym 215, sym 225]
def end23B_1000 : HuffmanDecoder := .node 1 [sym 171, sym 206]
def end23B_0111 : HuffmanDecoder := .node 1 [sym 148, sym 159]
def end23B_0110 : HuffmanDecoder := .node 1 [sym 144, sym 145]
def end23B_0101 : HuffmanDecoder := .node 1 [sym 9, sym 142]
def end19_1111 : HuffmanDecoder := .node 4 [sym 188, sym 191, sym 197, sym 231, sym 239,
    end23B_0101, end23B_0110, end23B_0111, end23B_1000, end23B_1001, end23B_1010, end23B_1011,
    end23B_1100, end23B_1101, end23B_1110, end23B_1111]
def end19_1110 : HuffmanDecoder := .node 4 [sym 147, sym 149, sym 150, sym 151, sym 152, sym 155,
    sym 157, sym 158, sym 165, sym 166, sym 168, sym 174, sym 175, sym 180, sym 182, sym 183]
def end23A_111 : HuffmanDecoder := .node 1 [sym 141, sym 143]
def end23A_110 : HuffmanDecoder := .node 1 [sym 139, sym 140]
def end23A_101 : HuffmanDecoder := .node 1 [sym 137, sym 138]
def end23A_100 : HuffmanDecoder := .node 1 [sym 1, sym 135]
def end19_1101 : HuffmanDecoder := .node 3 [sym 198, sym 228, sym 232, sym 233, end23A_100,
    end23A_101, end23A_110, end23A_111]
def end19_1100 : HuffmanDecoder := .node 3 [sym 178, sym 181, sym 185, sym 186, sym 187, sym 189,
    sym 190, sym 196]
def end19_1011 : HuffmanDecoder := .node 3 [sym 154, sym 156, sym 160, sym 163, sym 164, sym 169,
    sym 170, sym 173]
def end19_1010_11 : HuffmanDecoder := .node 1 [sym 136, sym 146]
def end19_1010_10 : HuffmanDecoder := .node 1 [sym 133, sym 134]
def end19_1010_01 : HuffmanDecoder := .node 1 [sym 129, sym 132]
def end19_1010 : HuffmanDecoder := .node 2 [sym 230, end19_1010_01, end19_1010_10, end19_1010_11]
def end19_1001 : HuffmanDecoder := .node 2 [sym 216, sym 217, sym 227, sym 229]
def end19_1000 : HuffmanDecoder := .node 2 [sym 176, sym 177, sym 179, sym 209]
def end19_0111 : HuffmanDecoder := .node 2 [sym 153, sym 161, sym 167, sym 172]
def end19_0110 : HuffmanDecoder := .node 1 [sym 224, sym 226]
def end19_0101 : HuffmanDecoder := .node 1 [sym 184, sym 194]
def end19_0100 : HuffmanDecoder := .node 1 [sym 131, sym 162]
def end19_0011 : HuffmanDecoder := .node 1 [sym 128, sym 130]
def end15_1 : HuffmanDecoder := .node 4 [sym 92, sym 195, sym 208, end19_0011, end19_0100,
    end19_0101, end19_0110, end19_0111, end19_1000, end19_1001, end19_1010, end19_1011, end19_1100,
    end19_1101, end19_1110, end19_1111]
def end14_1 : HuffmanDecoder := .node 1 [sym 123, end15_1]
def end14_0 : HuffmanDecoder := .node 1 [ascii '<', sym 96]
def end13_11 : HuffmanDecoder := .node 1 [end14_0, end14_1]
def end13_10 : HuffmanDecoder := .node 1 [ascii '^', sym 125]
def end9B_11 : HuffmanDecoder := .node 2 [ascii ']', ascii '~', end13_10, end13_11]
def end9B_10 : HuffmanDecoder := .node 2 [sym 0, ascii '$', ascii '@', ascii '[']
def end9B_01 : HuffmanDecoder := .node 1 [ascii '#', ascii '>']
def end8_1 : HuffmanDecoder := .node 2 [ascii '|', end9B_01, end9B_10, end9B_11]
def end9A_1 : HuffmanDecoder := .node 1 [sym 39, ascii '+']
def end8_0 : HuffmanDecoder := .node 1 [ascii '?', end9A_1]
def end7_1 : HuffmanDecoder := .node 1 [end8_0, end8_1]
def end7_0 : HuffmanDecoder := .node 2 [ascii '!', sym 34, ascii '(', ascii ')']
def end5_11 : HuffmanDecoder := .node 1 [end7_0, end7_1]
def end5_10 : HuffmanDecoder := .node 1 [ascii 'X', ascii 'Z']
def end5_01 : HuffmanDecoder := .node 1 [ascii ',', sym 59]
def end5_00 : HuffmanDecoder := .node 1 [ascii '&', ascii '*']
def end0_11111 : HuffmanDecoder := .node 2 [end5_00, end5_01, end5_10, end5_11]
def end0_11110 : HuffmanDecoder := .node 2 [ascii 'w', ascii 'x', ascii 'y', ascii 'z']
def end0_11101 : HuffmanDecoder := .node 2 [ascii 'j', ascii 'k', ascii 'q', ascii 'v']
def end0_11100 : HuffmanDecoder := .node 2 [ascii 'U', ascii 'V', ascii 'W', ascii 'Y']
def end0_11011 : HuffmanDecoder := .node 2 [ascii 'Q', ascii 'R', ascii 'S', ascii 'T']
def end0_11010 : HuffmanDecoder := .node 2 [ascii 'M', ascii 'N', ascii 'O', ascii 'P']
def end0_11001 : HuffmanDecoder := .node 2 [ascii 'I', ascii 'J', ascii 'K', ascii 'L']
def end0_11000 : HuffmanDecoder := .node 2 [ascii 'E', ascii 'F', ascii 'G', ascii 'H']
def end0_10111 : HuffmanDecoder := .node 2 [ascii ':', ascii 'B', ascii 'C', ascii 'D']
def end0_10110 : HuffmanDecoder := .node 1 [ascii 'r', ascii 'u']
def end0_10101 : HuffmanDecoder := .node 1 [ascii 'n', ascii 'p']
def end0_10100 : HuffmanDecoder := .node 1 [ascii 'l', ascii 'm']
def end0_10011 : HuffmanDecoder := .node 1 [ascii 'g', ascii 'h']
def end0_10010 : HuffmanDecoder := .node 1 [ascii 'd', ascii 'f']
def end0_10001 : HuffmanDecoder := .node 1 [ascii '_', ascii 'b']
def end0_10000 : HuffmanDecoder := .node 1 [ascii '=', ascii 'A']
def end0_01111 : HuffmanDecoder := .node 1 [ascii '8', ascii '9']
def end0_01110 : HuffmanDecoder := .node 1 [ascii '6', ascii '7']
def end0_01101 : HuffmanDecoder := .node 1 [ascii '4', ascii '5']
def end0_01100 : HuffmanDecoder := .node 1 [ascii '/', ascii '3']
def end0_01011 : HuffmanDecoder := .node 1 [ascii '-', ascii '.']
def end0_01010 : HuffmanDecoder := .node 1 [sym 32, ascii '%']
def hpackStringDecoder : HuffmanDecoder := .node 5 [ascii '0', ascii '1', ascii '2', ascii 'a',
    ascii 'c', ascii 'e', ascii 'i', ascii 'o', ascii 's', ascii 't', end0_01010, end0_01011,
    end0_01100, end0_01101, end0_01110, end0_01111, end0_10000, end0_10001, end0_10010, end0_10011,
    end0_10100, end0_10101, end0_10110, end0_10111, end0_11000, end0_11001, end0_11010, end0_11011,
    end0_11100, end0_11101, end0_11110, end0_11111]

/-- The first bits of the parts, `rest` of them in all. -/
def partBits : Nat → List UInt8 → List Bool
  | _, [] => []
  | rest, part :: parts => Bits.ofNat (min rest 8) part.toNat ++ partBits (rest - min rest 8) parts

def EncodeValue.bits (self : EncodeValue) : List Bool := partBits self.bitCount self.buffer

theorem length_hpackStringEncoder : hpackStringEncoder.length = 256 := by decide +kernel

def encodeValue (code : UInt8) : EncodeValue :=
  hpackStringEncoder.get ⟨code.toNat, length_hpackStringEncoder ▸ code.toNat_lt⟩

/-- The code word of a byte. -/
def codeWord (code : UInt8) : List Bool := (encodeValue code).bits

theorem encodeValue_mem (code : UInt8) : encodeValue code ∈ hpackStringEncoder := List.get_mem ..

theorem encodeValue_mem_zipIdx (code : UInt8) :
    (encodeValue code, code.toNat) ∈ hpackStringEncoder.zipIdx := by
  rw [List.mk_mem_zipIdx_iff_getElem?]
  exact List.getElem?_eq_getElem _

/-- A row has as many parts as its bits need. -/
theorem encodeValue_parts (code : UInt8) :
    (encodeValue code).buffer.length = ((encodeValue code).bitCount + 7) / 8 :=
  (by decide +kernel : ∀ entry ∈ hpackStringEncoder, entry.buffer.length = (entry.bitCount + 7) / 8)
    _ (encodeValue_mem code)

theorem length_codeWord (code : UInt8) : (codeWord code).length = (encodeValue code).bitCount :=
  (by decide +kernel : ∀ entry ∈ hpackStringEncoder, entry.bits.length = entry.bitCount)
    _ (encodeValue_mem code)

theorem bitCount_bounds (code : UInt8) :
    5 ≤ (encodeValue code).bitCount ∧ (encodeValue code).bitCount ≤ 30 :=
  (by decide +kernel : ∀ entry ∈ hpackStringEncoder, 5 ≤ entry.bitCount ∧ entry.bitCount ≤ 30)
    _ (encodeValue_mem code)

theorem walk_codeWord (code : UInt8) : hpackStringDecoder.walk (codeWord code) = .symbol code [] := by
  have found := (by decide +kernel : ∀ entry ∈ hpackStringEncoder.zipIdx,
    hpackStringDecoder.walk entry.1.bits = .symbol (UInt8.ofNat entry.2) [])
    _ (encodeValue_mem_zipIdx code)
  rwa [UInt8.ofNat_toNat] at found

/-- The decoder's tables decode the encoder's code words and nothing else. -/
theorem hpackString_spells : Spells hpackStringDecoder codeWord := by
  have distinct : ((List.range 256).map UInt8.ofNat).Nodup :=
    List.nodup_range.map_on fun first small second bound same => by
      simpa [Nat.mod_eq_of_lt (List.mem_range.mp small), Nat.mod_eq_of_lt (List.mem_range.mp bound)]
        using congrArg UInt8.toNat same
  refine Spells.of_length distinct ?_ walk_codeWord
  rw [List.length_map, List.length_range]
  decide +kernel

end SingQuic.Qpack
