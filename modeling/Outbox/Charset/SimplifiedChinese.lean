import Outbox.Bytes
import Outbox.Charset.Grid.Gbk

/-!
# Simplified Chinese text

GBK writes ASCII as it is and the characters of its grid as two bytes. GB 18030 does the same and
reaches every other scalar by four bytes, whose pointer counts the code points that have no cell: in
stretches of the basic plane, and in one block above it. The two charsets differ in the euro sign
and in what they do with a character that has no cell.

Some cells once stood for private-use characters and now hold the characters that were added for
them since. The private-use characters are still written in those cells.

## Main Definitions

* `gbk?` — a character in GBK
* `gb18030?` — a character in GB 18030
-/

namespace Outbox.Charset

/-! ### Two bytes -/

/-- Where each character of the grid is written. -/
def gbkPointers : Pointers :=
  Grid.gbk.index []

/-- The pointer of a user-defined character. The characters are set out in three blocks: two of the
94 last cells of their rows, and one of the 96 first. -/
def gbkUserArea? (c : Char) : Option Nat :=
  let n := c.toNat
  if n < 0xE000 then none
  else if n < 0xE234 then
    let k := n - 0xE000
    some ((41 + k / 94) * 190 + 96 + k % 94)
  else if n < 0xE4C6 then
    let k := n - 0xE234
    some ((119 + k / 94) * 190 + 96 + k % 94)
  else if n < 0xE766 then
    let k := n - 0xE4C6
    some ((32 + k / 96) * 190 + k % 96)
  else none

/-- The private-use characters that keep the cells they had, with the two bytes of those. -/
def gbkFormerCells : List (Char × Nat) := [
  ('\uE78D', 0xA6D9), ('\uE78E', 0xA6DA), ('\uE78F', 0xA6DB), ('\uE790', 0xA6DC),
  ('\uE791', 0xA6DD), ('\uE792', 0xA6DE), ('\uE793', 0xA6DF), ('\uE794', 0xA6EC),
  ('\uE795', 0xA6ED), ('\uE796', 0xA6F3), ('\uE81E', 0xFE59), ('\uE826', 0xFE61),
  ('\uE82B', 0xFE66), ('\uE82C', 0xFE67), ('\uE832', 0xFE6D), ('\uE843', 0xFE7E),
  ('\uE854', 0xFE90), ('\uE864', 0xFEA0)]

/-- The two bytes of a pointer into the grid. -/
def gbkBytes (pointer : Nat) : Bytes :=
  let cell := pointer % 190
  [(0x81 + pointer / 190).toUInt8, (cell + if cell < 0x3F then 0x40 else 0x41).toUInt8]

/-- The one or two bytes of a character, where both charsets agree on them. One user-defined
character has a cell that is read as the ideographic space and is never written. -/
def gbkShort? (c : Char) : Option Bytes :=
  if c.toNat < 0x80 then some [c.toNat.toUInt8]
  else
    match gbkFormerCells.lookup c with
    | some code => some [(code / 0x100).toUInt8, (code % 0x100).toUInt8]
    | none => ((gbkUserArea? c).or (gbkPointers.of? c)).map gbkBytes

/-- **A character in GBK.** The euro sign is a single byte. -/
def gbk? (c : Char) : Option Bytes :=
  if c = '\uE5E5' then none
  else if c = '\u20AC' then some [0x80]
  else gbkShort? c

/-! ### Four bytes -/

/-- The stretches of consecutive code points without a cell: where each begins, and the pointer of
its first code point. -/
def fourByteStretches : List (Nat × Nat) := [
  (0x0080, 0), (0x00A5, 36), (0x00A9, 38), (0x00B2, 45), (0x00B8, 50), (0x00D8, 81), (0x00E2, 89),
  (0x00EB, 95), (0x00EE, 96), (0x00F4, 100), (0x00F8, 103), (0x00FB, 104), (0x00FD, 105),
  (0x0102, 109), (0x0114, 126), (0x011C, 133), (0x012C, 148), (0x0145, 172), (0x0149, 175),
  (0x014E, 179), (0x016C, 208), (0x01CF, 306), (0x01D1, 307), (0x01D3, 308), (0x01D5, 309),
  (0x01D7, 310), (0x01D9, 311), (0x01DB, 312), (0x01DD, 313), (0x01FA, 341), (0x0252, 428),
  (0x0262, 443), (0x02C8, 544), (0x02CC, 545), (0x02DA, 558), (0x03A2, 741), (0x03AA, 742),
  (0x03C2, 749), (0x03CA, 750), (0x0402, 805), (0x0450, 819), (0x0452, 820), (0x2011, 7922),
  (0x2017, 7924), (0x201A, 7925), (0x201E, 7927), (0x2027, 7934), (0x2031, 7943), (0x2034, 7944),
  (0x2036, 7945), (0x203C, 7950), (0x20AD, 8062), (0x2104, 8148), (0x2106, 8149), (0x210A, 8152),
  (0x2117, 8164), (0x2122, 8174), (0x216C, 8236), (0x217A, 8240), (0x2194, 8262), (0x219A, 8264),
  (0x2209, 8374), (0x2210, 8380), (0x2212, 8381), (0x2216, 8384), (0x221B, 8388), (0x2221, 8390),
  (0x2224, 8392), (0x2226, 8393), (0x222C, 8394), (0x222F, 8396), (0x2238, 8401), (0x223E, 8406),
  (0x2249, 8416), (0x224D, 8419), (0x2253, 8424), (0x2262, 8437), (0x2268, 8439), (0x2270, 8445),
  (0x2296, 8482), (0x229A, 8485), (0x22A6, 8496), (0x22C0, 8521), (0x2313, 8603), (0x246A, 8936),
  (0x249C, 8946), (0x254C, 9046), (0x2574, 9050), (0x2590, 9063), (0x2596, 9066), (0x25A2, 9076),
  (0x25B4, 9092), (0x25BE, 9100), (0x25C8, 9108), (0x25CC, 9111), (0x25D0, 9113), (0x25E6, 9131),
  (0x2607, 9162), (0x260A, 9164), (0x2641, 9218), (0x2643, 9219), (0x2E82, 11329), (0x2E85, 11331),
  (0x2E89, 11334), (0x2E8D, 11336), (0x2E98, 11346), (0x2EA8, 11361), (0x2EAB, 11363),
  (0x2EAF, 11366), (0x2EB4, 11370), (0x2EB8, 11372), (0x2EBC, 11375), (0x2ECB, 11389),
  (0x2FFC, 11682), (0x3004, 11686), (0x3018, 11687), (0x301F, 11692), (0x302A, 11694),
  (0x303F, 11714), (0x3094, 11716), (0x309F, 11723), (0x30F7, 11725), (0x30FF, 11730),
  (0x312A, 11736), (0x322A, 11982), (0x3232, 11989), (0x32A4, 12102), (0x3390, 12336),
  (0x339F, 12348), (0x33A2, 12350), (0x33C5, 12384), (0x33CF, 12393), (0x33D3, 12395),
  (0x33D6, 12397), (0x3448, 12510), (0x3474, 12553), (0x359F, 12851), (0x360F, 12962),
  (0x361B, 12973), (0x3919, 13738), (0x396F, 13823), (0x39D1, 13919), (0x39E0, 13933),
  (0x3A74, 14080), (0x3B4F, 14298), (0x3C6F, 14585), (0x3CE1, 14698), (0x4057, 15583),
  (0x4160, 15847), (0x4338, 16318), (0x43AD, 16434), (0x43B2, 16438), (0x43DE, 16481),
  (0x44D7, 16729), (0x464D, 17102), (0x4662, 17122), (0x4724, 17315), (0x472A, 17320),
  (0x477D, 17402), (0x478E, 17418), (0x4948, 17859), (0x497B, 17909), (0x497E, 17911),
  (0x4984, 17915), (0x4987, 17916), (0x499C, 17936), (0x49A0, 17939), (0x49B8, 17961),
  (0x4C78, 18664), (0x4CA4, 18703), (0x4D1A, 18814), (0x4DAF, 18962), (0x9FA6, 19043),
  (0xE76C, 33469), (0xE7C8, 33470), (0xE7E7, 33471), (0xE815, 33484), (0xE819, 33485),
  (0xE81F, 33490), (0xE827, 33497), (0xE82D, 33501), (0xE833, 33505), (0xE83C, 33513),
  (0xE844, 33520), (0xE856, 33536), (0xE865, 33550), (0xF92D, 37845), (0xF97A, 37921),
  (0xF996, 37948), (0xF9E8, 38029), (0xF9F2, 38038), (0xFA10, 38064), (0xFA12, 38065),
  (0xFA15, 38066), (0xFA19, 38069), (0xFA22, 38075), (0xFA25, 38076), (0xFA2A, 38078),
  (0xFE32, 39108), (0xFE45, 39109), (0xFE53, 39113), (0xFE58, 39114), (0xFE67, 39115),
  (0xFE6C, 39116), (0xFF5F, 39265), (0xFFE6, 39394)]

/-- The pointer of a scalar among those written as four bytes. One private-use character has the
pointer that was left free when the character of its former cell moved into the grid. -/
def fourBytePointer (c : Char) : Nat :=
  let n := c.toNat
  if n = 0xE7C7 then 7457
  else if 0x10000 ≤ n then 189000 + (n - 0x10000)
  else
    match fourByteStretches.reverse.find? fun stretch => stretch.1 ≤ n with
    | some (first, pointer) => pointer + (n - first)
    | none => 0

/-- The four bytes of a pointer: digits of base 126 and 10 in turn. -/
def fourBytes (pointer : Nat) : Bytes :=
  [(0x81 + pointer / 12600).toUInt8, (0x30 + pointer / 1260 % 10).toUInt8,
    (0x81 + pointer / 10 % 126).toUInt8, (0x30 + pointer % 10).toUInt8]

/-- **A character in GB 18030**: short where it can be, and four bytes otherwise. -/
def gb18030? (c : Char) : Option Bytes :=
  if c = '\uE5E5' then none
  else (gbkShort? c).or (some (fourBytes (fourBytePointer c)))

end Outbox.Charset
