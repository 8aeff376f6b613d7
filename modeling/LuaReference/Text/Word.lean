import LuaReference.Text.Letter

/-!
# Word characters

* `wordMarks` : marks, decimal digits, connector punctuation and joiners that are not letters;
* `recentCodes` : the code points of both kinds that Unicode 17 added;
* `isWord` : words are made of the letters and marks of Unicode 16;
* `isIdentStart` : what the name of a parameter or a field begins with.
-/

namespace LuaReference.Text

/-- The code points of words that are not letters: marks, decimal digits, connector punctuation
and the two joiners. -/
def wordMarks : CodeRanges :=
  [(0x0030, 0x0039), (0x005F, 0x005F), (0x0300, 0x0344), (0x0346, 0x0362), (0x0483, 0x0489),
   (0x0591, 0x05AF), (0x0658, 0x0658), (0x0660, 0x0669), (0x06DF, 0x06E0), (0x06EA, 0x06EC),
   (0x06F0, 0x06F9), (0x0740, 0x074A), (0x07C0, 0x07C9), (0x07EB, 0x07F3), (0x07FD, 0x07FD),
   (0x0818, 0x0819), (0x082D, 0x082D), (0x0859, 0x085B), (0x0898, 0x089F), (0x08CA, 0x08D3),
   (0x08E0, 0x08E1), (0x08EA, 0x08EF), (0x093C, 0x093C), (0x094D, 0x094D), (0x0951, 0x0954),
   (0x0966, 0x096F), (0x09BC, 0x09BC), (0x09CD, 0x09CD), (0x09E6, 0x09EF), (0x09FE, 0x09FE),
   (0x0A3C, 0x0A3C), (0x0A4D, 0x0A4D), (0x0A66, 0x0A6F), (0x0ABC, 0x0ABC), (0x0ACD, 0x0ACD),
   (0x0AE6, 0x0AEF), (0x0AFD, 0x0AFF), (0x0B3C, 0x0B3C), (0x0B4D, 0x0B4D), (0x0B55, 0x0B55),
   (0x0B66, 0x0B6F), (0x0BCD, 0x0BCD), (0x0BE6, 0x0BEF), (0x0C3C, 0x0C3C), (0x0C4D, 0x0C4D),
   (0x0C66, 0x0C6F), (0x0CBC, 0x0CBC), (0x0CCD, 0x0CCD), (0x0CE6, 0x0CEF), (0x0D3B, 0x0D3C),
   (0x0D4D, 0x0D4D), (0x0D66, 0x0D6F), (0x0DCA, 0x0DCA), (0x0DE6, 0x0DEF), (0x0E47, 0x0E4C),
   (0x0E4E, 0x0E4E), (0x0E50, 0x0E59), (0x0EBA, 0x0EBA), (0x0EC8, 0x0ECC), (0x0ECE, 0x0ECE),
   (0x0ED0, 0x0ED9), (0x0F18, 0x0F19), (0x0F20, 0x0F29), (0x0F35, 0x0F35), (0x0F37, 0x0F37),
   (0x0F39, 0x0F39), (0x0F3E, 0x0F3F), (0x0F84, 0x0F84), (0x0F86, 0x0F87), (0x0FC6, 0x0FC6),
   (0x1037, 0x1037), (0x1039, 0x103A), (0x1040, 0x1049), (0x1090, 0x1099), (0x135D, 0x135F),
   (0x1714, 0x1715), (0x1734, 0x1734), (0x17B4, 0x17B5), (0x17C9, 0x17D3), (0x17DD, 0x17DD),
   (0x17E0, 0x17E9), (0x180B, 0x180D), (0x180F, 0x1819), (0x1939, 0x193B), (0x1946, 0x194F),
   (0x19D0, 0x19D9), (0x1A60, 0x1A60), (0x1A75, 0x1A7C), (0x1A7F, 0x1A89), (0x1A90, 0x1A99),
   (0x1AB0, 0x1ABE), (0x1AC1, 0x1ACB), (0x1ACF, 0x1ADD), (0x1AE0, 0x1AEB), (0x1B34, 0x1B34),
   (0x1B44, 0x1B44), (0x1B50, 0x1B59), (0x1B6B, 0x1B73), (0x1BAA, 0x1BAB), (0x1BB0, 0x1BB9),
   (0x1BE6, 0x1BE6), (0x1BF2, 0x1BF3), (0x1C37, 0x1C37), (0x1C40, 0x1C49), (0x1C50, 0x1C59),
   (0x1CD0, 0x1CD2), (0x1CD4, 0x1CE8), (0x1CED, 0x1CED), (0x1CF4, 0x1CF4), (0x1CF7, 0x1CF9),
   (0x1DC0, 0x1DD2), (0x1DF5, 0x1DFF), (0x200C, 0x200D), (0x203F, 0x2040), (0x2054, 0x2054),
   (0x20D0, 0x20F0), (0x2CEF, 0x2CF1), (0x2D7F, 0x2D7F), (0x302A, 0x302F), (0x3099, 0x309A),
   (0xA620, 0xA629), (0xA66F, 0xA672), (0xA67C, 0xA67D), (0xA6F0, 0xA6F1), (0xA806, 0xA806),
   (0xA82C, 0xA82C), (0xA8C4, 0xA8C4), (0xA8D0, 0xA8D9), (0xA8E0, 0xA8F1), (0xA900, 0xA909),
   (0xA92B, 0xA92D), (0xA953, 0xA953), (0xA9B3, 0xA9B3), (0xA9C0, 0xA9C0), (0xA9D0, 0xA9D9),
   (0xA9F0, 0xA9F9), (0xAA50, 0xAA59), (0xAABF, 0xAABF), (0xAAC1, 0xAAC1), (0xAAF6, 0xAAF6),
   (0xABEC, 0xABED), (0xABF0, 0xABF9), (0xFE00, 0xFE0F), (0xFE20, 0xFE2F), (0xFE33, 0xFE34),
   (0xFE4D, 0xFE4F), (0xFF10, 0xFF19), (0xFF3F, 0xFF3F), (0x101FD, 0x101FD), (0x102E0, 0x102E0),
   (0x104A0, 0x104A9), (0x10A38, 0x10A3A), (0x10A3F, 0x10A3F), (0x10AE5, 0x10AE6),
   (0x10D30, 0x10D39), (0x10D40, 0x10D49), (0x10D6A, 0x10D6D), (0x10EFD, 0x10EFF),
   (0x10F46, 0x10F50), (0x10F82, 0x10F85), (0x11046, 0x11046), (0x11066, 0x11070),
   (0x1107F, 0x1107F), (0x110B9, 0x110BA), (0x110F0, 0x110F9), (0x11133, 0x11134),
   (0x11136, 0x1113F), (0x11173, 0x11173), (0x111C0, 0x111C0), (0x111C9, 0x111CC),
   (0x111D0, 0x111D9), (0x11235, 0x11236), (0x112E9, 0x112EA), (0x112F0, 0x112F9),
   (0x1133B, 0x1133C), (0x1134D, 0x1134D), (0x11366, 0x1136C), (0x11370, 0x11374),
   (0x113CE, 0x113D0), (0x113D2, 0x113D2), (0x113E1, 0x113E2), (0x11442, 0x11442),
   (0x11446, 0x11446), (0x11450, 0x11459), (0x1145E, 0x1145E), (0x114C2, 0x114C3),
   (0x114D0, 0x114D9), (0x115BF, 0x115C0), (0x1163F, 0x1163F), (0x11650, 0x11659),
   (0x116B6, 0x116B7), (0x116C0, 0x116C9), (0x116D0, 0x116E3), (0x1172B, 0x1172B),
   (0x11730, 0x11739), (0x11839, 0x1183A), (0x118E0, 0x118E9), (0x1193D, 0x1193E),
   (0x11943, 0x11943), (0x11950, 0x11959), (0x119E0, 0x119E0), (0x11A33, 0x11A34),
   (0x11A47, 0x11A47), (0x11A98, 0x11A99), (0x11BF0, 0x11BF9), (0x11C3F, 0x11C3F),
   (0x11C50, 0x11C59), (0x11D42, 0x11D42), (0x11D44, 0x11D45), (0x11D50, 0x11D59),
   (0x11D97, 0x11D97), (0x11DA0, 0x11DA9), (0x11DE0, 0x11DE9), (0x11F41, 0x11F42),
   (0x11F50, 0x11F5A), (0x13440, 0x13440), (0x13447, 0x13455), (0x1612F, 0x16139),
   (0x16A60, 0x16A69), (0x16AC0, 0x16AC9), (0x16AF0, 0x16AF4), (0x16B30, 0x16B36),
   (0x16B50, 0x16B59), (0x16D70, 0x16D79), (0x16FE4, 0x16FE4), (0x1BC9D, 0x1BC9D),
   (0x1CCF0, 0x1CCF9), (0x1CF00, 0x1CF2D), (0x1CF30, 0x1CF46), (0x1D165, 0x1D169),
   (0x1D16D, 0x1D172), (0x1D17B, 0x1D182), (0x1D185, 0x1D18B), (0x1D1AA, 0x1D1AD),
   (0x1D242, 0x1D244), (0x1D7CE, 0x1D7FF), (0x1DA00, 0x1DA36), (0x1DA3B, 0x1DA6C),
   (0x1DA75, 0x1DA75), (0x1DA84, 0x1DA84), (0x1DA9B, 0x1DA9F), (0x1DAA1, 0x1DAAF),
   (0x1E130, 0x1E136), (0x1E140, 0x1E149), (0x1E2AE, 0x1E2AE), (0x1E2EC, 0x1E2F9),
   (0x1E4EC, 0x1E4F9), (0x1E5EE, 0x1E5EF), (0x1E5F1, 0x1E5FA), (0x1E8D0, 0x1E8D6),
   (0x1E944, 0x1E946), (0x1E948, 0x1E94A), (0x1E950, 0x1E959), (0x1FBF0, 0x1FBF9),
   (0xE0100, 0xE01EF)]

/-- The letters and marks that Unicode 17 added. Text that is shown treats them as letters, names do
not hold them yet. -/
def recentCodes : CodeRanges :=
  [(0x088F, 0x088F), (0x0C5C, 0x0C5C), (0x0CDC, 0x0CDC), (0x1ACF, 0x1ADD), (0x1AE0, 0x1AEB),
   (0xA7CE, 0xA7CF), (0xA7D2, 0xA7D2), (0xA7D4, 0xA7D4), (0xA7F1, 0xA7F1), (0x10940, 0x10959),
   (0x10EC5, 0x10EC7), (0x10EFA, 0x10EFB), (0x11B60, 0x11B67), (0x11DB0, 0x11DDB),
   (0x11DE0, 0x11DE9), (0x16EA0, 0x16EB8), (0x16EBB, 0x16ED3), (0x16FF2, 0x16FF6),
   (0x187F8, 0x187FF), (0x18D09, 0x18D1E), (0x18D80, 0x18DF2), (0x1E6C0, 0x1E6DE),
   (0x1E6E0, 0x1E6F5), (0x1E6FE, 0x1E6FF), (0x2B73A, 0x2B73F), (0x2CEA2, 0x2CEAD),
   (0x323B0, 0x33479)]

/-- Whether a character is part of a word: a letter or a mark of Unicode 16. -/
def isWord (c : Char) : Bool :=
  (isLetter c || wordMarks.has c.toNat) && !recentCodes.has c.toNat

/-- An ASCII letter or an underscore, which is how a name begins. -/
def isIdentStart (c : Char) : Bool := c.isAlpha || c == '_'

end LuaReference.Text
