import RemoteSigning.Text.CodePointSet

/-!
# Composed labels

A letter with a mark may be one code point or two, and marks on different sides of a letter may be in any order. In a
label letters and marks are composed as far as they can be, and marks are in the order of their classes. Only what may
stand in a label is looked at; of that no code point is just another name for a different one.

- `CodePoint.combiningClass` is the class of a mark, zero for everything else;
- `Text.composed` is the composed form.
-/

namespace RemoteSigning

namespace CodePoint

/-- The classes of marks; marks of one class stay in order. -/
@[irreducible] def combiningClasses : List (Nat × CodePointSet) :=
  [(1, .ofLines
     ["334-338 1cd4 1ce2-1ce8 10a39 16af0-16af4 1bc9e"]),
   (6, .ofLines
     ["16ff0-16ff1"]),
   (7, .ofLines
     ["93c 9bc a3c abc b3c c3c cbc 1037 1b34 1be6 1c37 a9b3 110ba 11173 111ca 11236 112e9 1133b-1133c 11446",
      "114c3 115c0 116b7 1183a 11943 11d42 1e94a"]),
   (8, .ofLines
     ["3099-309a"]),
   (9, .ofLines
     ["94d 9cd a4d acd b4d bcd c4d ccd d3b-d3c d4d dca e3a eba f84 1039-103a 1714-1715 1734 17d2 1a60 1b44",
      "1baa-1bab 1bf2-1bf3 2d7f a806 a82c a8c4 a953 a9c0 aaf6 abed 10a3f 11046 11070 1107f 110b9 11133-11134",
      "111c0 11235 112ea 1134d 11442 114c2 115bf 1163f 116b6 1172b 11839 1193d-1193e 119e0 11a34 11a47 11a99",
      "11c3f 11d44-11d45 11d97"]),
   (10, .ofLines
     ["5b0"]),
   (11, .ofLines
     ["5b1"]),
   (12, .ofLines
     ["5b2"]),
   (13, .ofLines
     ["5b3"]),
   (14, .ofLines
     ["5b4"]),
   (15, .ofLines
     ["5b5"]),
   (16, .ofLines
     ["5b6"]),
   (17, .ofLines
     ["5b7"]),
   (18, .ofLines
     ["5b8 5c7"]),
   (19, .ofLines
     ["5b9-5ba"]),
   (20, .ofLines
     ["5bb"]),
   (21, .ofLines
     ["5bc"]),
   (22, .ofLines
     ["5bd"]),
   (23, .ofLines
     ["5bf"]),
   (24, .ofLines
     ["5c1"]),
   (25, .ofLines
     ["5c2"]),
   (26, .ofLines
     ["fb1e"]),
   (27, .ofLines
     ["64b 8f0"]),
   (28, .ofLines
     ["64c 8f1"]),
   (29, .ofLines
     ["64d 8f2"]),
   (30, .ofLines
     ["618 64e"]),
   (31, .ofLines
     ["619 64f"]),
   (32, .ofLines
     ["61a 650"]),
   (33, .ofLines
     ["651"]),
   (34, .ofLines
     ["652"]),
   (35, .ofLines
     ["670"]),
   (36, .ofLines
     ["711"]),
   (84, .ofLines
     ["c55"]),
   (91, .ofLines
     ["c56"]),
   (103, .ofLines
     ["e38-e39"]),
   (107, .ofLines
     ["e48-e4b"]),
   (118, .ofLines
     ["eb8-eb9"]),
   (122, .ofLines
     ["ec8-ecb"]),
   (129, .ofLines
     ["f71"]),
   (130, .ofLines
     ["f72 f7a-f7d f80"]),
   (132, .ofLines
     ["f74"]),
   (202, .ofLines
     ["321-322 327-328 1dd0"]),
   (214, .ofLines
     ["1dce"]),
   (216, .ofLines
     ["31b f39"]),
   (218, .ofLines
     ["1dfa 302a"]),
   (220, .ofLines
     ["316-319 31c-320 323-326 329-333 339-33c 347-349 34d-34e 353-356 359-35a 591 596 59b 5a2-5a7 5aa 5c5",
      "655-656 65c 65f 6e3 6ea 6ed 731 734 737-739 73b-73c 73e 742-748/2 7f2 7fd 859-85b 899-89b 8cf-8d3 8e3",
      "8e6 8e9 8ed-8ef 8f6 8f9-8fa 952 f18-f19 f35 f37 fc6 108d 193b 1a18 1a7f 1ab5-1aba 1abd 1abf-1ac0",
      "1ac3-1ac4 1aca 1b6c 1cd5-1cd9 1cdc-1cdf 1ced 1dc2 1dca 1dcf 1df9 1dfd 1dff a92b-a92d aab4 fe27-fe2d",
      "101fd 102e0 10a0d 10a3a 10ae6 10f46-10f47 10f4b 10f4d-10f50 10f83 10f85 1e8d0-1e8d6"]),
   (222, .ofLines
     ["59a 5ad 1939 302d"]),
   (228, .ofLines
     ["5ae 18a9 1df7-1df8 302b"]),
   (230, .ofLines
     ["300-314 33d-33f 342 346 34a-34c 350-352 357 35b 363-36f 483-487 592-595 597-599 59c-5a1 5a8-5a9 5ab-5ac",
      "5af 5c4 610-617 653-654 657-65b 65d-65e 6d6-6dc 6df-6e2 6e4 6e7-6e8 6eb-6ec 730 732-733 735-736 73a 73d",
      "73f-741 743-747/2 749-74a 7eb-7f1 7f3 816-819 81b-823 825-827 829-82d 898 89c-89f 8ca-8ce 8d4-8e1",
      "8e4-8e5 8e7-8e8 8ea-8ec 8f3-8f5 8f7-8f8 8fb-8ff 951 953-954 9fe f82-f83 f86-f87 135d-135f 17dd 193a 1a17",
      "1a75-1a7c 1ab0-1ab4 1abb-1abc 1ac1-1ac2 1ac5-1ac9 1acb-1ace 1b6b 1b6d-1b73 1cd0-1cd2 1cda-1cdb 1ce0 1cf4",
      "1cf8-1cf9 1dc0-1dc1 1dc3-1dc9 1dcb-1dcc 1dd1-1df5 1dfb 1dfe 2cef-2cf1 2de0-2dff a66f a674-a67d a69e-a69f",
      "a6f0-a6f1 a8e0-a8f1 aab0 aab2-aab3 aab7-aab8 aabe-aabf aac1 fe20-fe26 fe2e-fe2f 10376-1037a 10a0f 10a38",
      "10ae5 10d24-10d27 10eab-10eac 10f48-10f4a 10f4c 10f82 10f84 11100-11102 11366-1136c 11370-11374 1145e",
      "16b30-16b36 1e000-1e006 1e008-1e018 1e01b-1e021 1e023-1e024 1e026-1e02a 1e130-1e136 1e2ae 1e2ec-1e2ef",
      "1e944-1e949"]),
   (232, .ofLines
     ["315 31a 358 1df6 302c"]),
   (233, .ofLines
     ["35c 35f 362 1dfc"]),
   (234, .ofLines
     ["35d-35e 360-361 1dcd"])]

/-- For each mark the code points to which it can be added, and what they then become. -/
def compositionLines : List (Nat × List String) :=
  [(0x300, ["61:e0 65:e8 69:ec 6f:f2 75:f9 fc:1dc 6e:1f9 435:450 438:45d 113:1e15 14d:1e51 77:1e81 e2:1ea7 103:1eb1",
      "ea:1ec1 f4:1ed3 1a1:1edd 1b0:1eeb 79:1ef3 1f00:1f02 1f01:1f03 1f10:1f12 1f11:1f13 1f20:1f22 1f21:1f23",
      "1f30:1f32 1f31:1f33 1f40:1f42 1f41:1f43 1f50:1f52 1f51:1f53 1f60:1f62 1f61:1f63 3b1:1f70 3b5:1f72",
      "3b7:1f74 3b9:1f76 3bf:1f78 3c5:1f7a 3c9:1f7c 3ca:1fd2 3cb:1fe2"]),
   (0x301, ["61:e1 65:e9 69:ed 6f:f3 75:fa 79:fd 63:107 6c:13a 6e:144 72:155 73:15b 7a:17a fc:1d8 67:1f5 e5:1fb",
      "e6:1fd f8:1ff 3ca:390 3b1:3ac 3b5:3ad 3b7:3ae 3b9:3af 3cb:3b0 3bf:3cc 3c5:3cd 3c9:3ce 433:453 43a:45c",
      "e7:1e09 113:1e17 ef:1e2f 6b:1e31 6d:1e3f f5:1e4d 14d:1e53 70:1e55 169:1e79 77:1e83 e2:1ea5 103:1eaf",
      "ea:1ebf f4:1ed1 1a1:1edb 1b0:1ee9 1f00:1f04 1f01:1f05 1f10:1f14 1f11:1f15 1f20:1f24 1f21:1f25 1f30:1f34",
      "1f31:1f35 1f40:1f44 1f41:1f45 1f50:1f54 1f51:1f55 1f60:1f64 1f61:1f65"]),
   (0x302, ["61:e2 65:ea 69:ee 6f:f4 75:fb 63:109 67:11d 68:125 6a:135 73:15d 77:175 79:177 7a:1e91 1ea1:1ead",
      "1eb9:1ec7 1ecd:1ed9"]),
   (0x303, ["61:e3 6e:f1 6f:f5 69:129 75:169 76:1e7d e2:1eab 103:1eb5 65:1ebd ea:1ec5 f4:1ed7 1a1:1ee1 1b0:1eef",
      "79:1ef9"]),
   (0x304, ["61:101 65:113 69:12b 6f:14d 75:16b fc:1d6 e4:1df 227:1e1 e6:1e3 1eb:1ed f6:22b f5:22d 22f:231 79:233",
      "438:4e3 443:4ef 67:1e21 1e37:1e39 1e5b:1e5d 3b1:1fb1 3b9:1fd1 3c5:1fe1"]),
   (0x306, ["61:103 65:115 67:11f 69:12d 6f:14f 75:16d 438:439 443:45e 436:4c2 430:4d1 435:4d7 229:1e1d 1ea1:1eb7",
      "3b1:1fb0 3b9:1fd0 3c5:1fe0"]),
   (0x307, ["63:10b 65:117 67:121 7a:17c 61:227 6f:22f 62:1e03 64:1e0b 66:1e1f 68:1e23 6d:1e41 6e:1e45 70:1e57",
      "72:1e59 73:1e61 15b:1e65 161:1e67 1e63:1e69 74:1e6b 77:1e87 78:1e8b 79:1e8f"]),
   (0x308, ["61:e4 65:eb 69:ef 6f:f6 75:fc 79:ff 3b9:3ca 3c5:3cb 435:451 456:457 430:4d3 4d9:4db 436:4dd 437:4df",
      "438:4e5 43e:4e7 4e9:4eb 44d:4ed 443:4f1 447:4f5 44b:4f9 68:1e27 f5:1e4f 16b:1e7b 77:1e85 78:1e8d 74:1e97"]),
   (0x309, ["61:1ea3 e2:1ea9 103:1eb3 65:1ebb ea:1ec3 69:1ec9 6f:1ecf f4:1ed5 1a1:1edf 75:1ee7 1b0:1eed 79:1ef7"]),
   (0x30A, ["61:e5 75:16f 77:1e98 79:1e99"]),
   (0x30B, ["6f:151 75:171 443:4f3"]),
   (0x30C, ["63:10d 64:10f 65:11b 6c:13e 6e:148 72:159 73:161 74:165 7a:17e 61:1ce 69:1d0 6f:1d2 75:1d4 fc:1da 67:1e7",
      "6b:1e9 292:1ef 6a:1f0 68:21f"]),
   (0x30F, ["61:201 65:205 69:209 6f:20d 72:211 75:215 475:477"]),
   (0x311, ["61:203 65:207 69:20b 6f:20f 72:213 75:217"]),
   (0x313, ["3b1:1f00 3b5:1f10 3b7:1f20 3b9:1f30 3bf:1f40 3c5:1f50 3c9:1f60 3c1:1fe4"]),
   (0x314, ["3b1:1f01 3b5:1f11 3b7:1f21 3b9:1f31 3bf:1f41 3c5:1f51 3c9:1f61 3c1:1fe5"]),
   (0x31B, ["6f:1a1 75:1b0"]),
   (0x323, ["62:1e05 64:1e0d 68:1e25 6b:1e33 6c:1e37 6d:1e43 6e:1e47 72:1e5b 73:1e63 74:1e6d 76:1e7f 77:1e89 7a:1e93",
      "61:1ea1 65:1eb9 69:1ecb 6f:1ecd 1a1:1ee3 75:1ee5 1b0:1ef1 79:1ef5"]),
   (0x324, ["75:1e73"]),
   (0x325, ["61:1e01"]),
   (0x326, ["73:219 74:21b"]),
   (0x327, ["63:e7 67:123 6b:137 6c:13c 6e:146 72:157 73:15f 74:163 65:229 64:1e11 68:1e29"]),
   (0x328, ["61:105 65:119 69:12f 75:173 6f:1eb"]),
   (0x32D, ["64:1e13 65:1e19 6c:1e3d 6e:1e4b 74:1e71 75:1e77"]),
   (0x32E, ["68:1e2b"]),
   (0x330, ["65:1e1b 69:1e2d 75:1e75"]),
   (0x331, ["62:1e07 64:1e0f 6b:1e35 6c:1e3b 6e:1e49 72:1e5f 74:1e6f 7a:1e95 68:1e96"]),
   (0x342, ["1f00:1f06 1f01:1f07 1f20:1f26 1f21:1f27 1f30:1f36 1f31:1f37 1f50:1f56 1f51:1f57 1f60:1f66 1f61:1f67",
      "3b1:1fb6 3b7:1fc6 3b9:1fd6 3ca:1fd7 3c5:1fe6 3cb:1fe7 3c9:1ff6"]),
   (0x653, ["627:622"]),
   (0x654, ["627:623 648:624 64a:626 6d5:6c0 6c1:6c2 6d2:6d3"]),
   (0x655, ["627:625"]),
   (0x93C, ["928:929 930:931 933:934"]),
   (0x9BE, ["9c7:9cb"]),
   (0x9D7, ["9c7:9cc"]),
   (0xB3E, ["b47:b4b"]),
   (0xB56, ["b47:b48"]),
   (0xB57, ["b47:b4c"]),
   (0xBBE, ["bc6:bca bc7:bcb"]),
   (0xBD7, ["b92:b94 bc6:bcc"]),
   (0xC56, ["c46:c48"]),
   (0xCC2, ["cc6:cca"]),
   (0xCD5, ["cbf:cc0 cc6:cc7 cca:ccb"]),
   (0xCD6, ["cc6:cc8"]),
   (0xD3E, ["d46:d4a d47:d4b"]),
   (0xD57, ["d46:d4c"]),
   (0xDCA, ["dd9:dda ddc:ddd"]),
   (0xDCF, ["dd9:ddc"]),
   (0xDDF, ["dd9:dde"]),
   (0x102E, ["1025:1026"]),
   (0x1B35, ["1b05:1b06 1b07:1b08 1b09:1b0a 1b0b:1b0c 1b0d:1b0e 1b11:1b12 1b3a:1b3b 1b3c:1b3d 1b3e:1b40 1b3f:1b41",
      "1b42:1b43"]),
   (0x3099, ["304b:304c 304d:304e 304f:3050 3051:3052 3053:3054 3055:3056 3057:3058 3059:305a 305b:305c 305d:305e",
      "305f:3060 3061:3062 3064:3065 3066:3067 3068:3069 306f:3070 3072:3073 3075:3076 3078:3079 307b:307c",
      "3046:3094 309d:309e 30ab:30ac 30ad:30ae 30af:30b0 30b1:30b2 30b3:30b4 30b5:30b6 30b7:30b8 30b9:30ba",
      "30bb:30bc 30bd:30be 30bf:30c0 30c1:30c2 30c4:30c5 30c6:30c7 30c8:30c9 30cf:30d0 30d2:30d3 30d5:30d6",
      "30d8:30d9 30db:30dc 30a6:30f4 30ef:30f7 30f0:30f8 30f1:30f9 30f2:30fa 30fd:30fe"]),
   (0x309A, ["306f:3071 3072:3074 3075:3077 3078:307a 307b:307d 30cf:30d1 30d2:30d4 30d5:30d7 30d8:30da 30db:30dd"]),
   (0x110BA, ["11099:1109a 1109b:1109c 110a5:110ab"]),
   (0x11127, ["11131:1112e 11132:1112f"]),
   (0x1133E, ["11347:1134b"]),
   (0x11357, ["11347:1134c"]),
   (0x114B0, ["114b9:114bc"]),
   (0x114BA, ["114b9:114bb"]),
   (0x114BD, ["114b9:114be"]),
   (0x115AF, ["115b8:115ba 115b9:115bb"]),
   (0x11930, ["11935:11938"])]

def combiningClass (c : CodePoint) : Nat := (CodePointSet.lookup? combiningClasses c).getD 0

/-- What becomes of a code point when another one follows. -/
structure Composition where
  first : Nat
  second : Nat
  whole : Nat
  deriving DecidableEq, Repr

/-- Reads a composition with a mark. -/
def Composition.ofText? (second : Nat) (t : Text) : Option Composition :=
  match t.splitOn ':' with
  | [first, whole] => do return ⟨← first.hexNumber?, second, ← whole.hexNumber?⟩
  | _ => none

@[irreducible] def compositions : List Composition :=
  compositionLines.flatMap fun (second, lines) =>
    (lines.flatMap fun line => (Text.ofString line).splitOn ' ').filterMap (Composition.ofText? second)

/-- What two code points in a row become. -/
def compose? (c d : CodePoint) : Option CodePoint :=
  (compositions.find? fun k => k.first = c.val && k.second = d.val).map fun k => .ofNat k.whole

/-- The two code points that a composed one is made of. -/
def parts? (c : CodePoint) : Option (CodePoint × CodePoint) :=
  (compositions.find? fun k => k.whole = c.val).map fun k => (.ofNat k.first, .ofNat k.second)

/-- Takes a code point apart, to a depth. -/
def decomposeTo : Nat → CodePoint → Text
  | 0, c => [c]
  | depth + 1, c =>
    match parts? c with
    | some (first, second) => decomposeTo depth first ++ [second]
    | none => [c]

/-- A code point taken apart; a letter has three marks at most. -/
def decompose (c : CodePoint) : Text := decomposeTo 4 c

end CodePoint

namespace Text

/-- Puts a mark before the marks of the same or a greater class; anything else stays where it is. -/
def insertMark (c : CodePoint) : Text → Text
  | [] => [c]
  | d :: rest =>
    if 0 < d.combiningClass && d.combiningClass < c.combiningClass then d :: insertMark c rest else c :: d :: rest

/-- The code points of a text taken apart, with marks in order. -/
def decomposed (t : Text) : Text := (t.flatMap CodePoint.decompose).foldr insertMark []

/-- A text that is being composed. -/
structure Composing where
  /-- What does not change any more. -/
  done : Text
  /-- What the next mark may be added to. -/
  last : Option CodePoint
  /-- The marks that could not be added. -/
  marks : Text

/-- Adds a code point. A mark of the same class before it keeps it from being composed. -/
def Composing.add (k : Composing) (c : CodePoint) : Composing :=
  match k.last with
  | none => if c.combiningClass = 0 then { k with last := some c } else { k with done := k.done ++ [c] }
  | some s =>
    let blocked := k.marks.getLast?.any fun m => c.combiningClass ≤ m.combiningClass
    match if blocked then none else s.compose? c with
    | some whole => { k with last := some whole }
    | none =>
      if c.combiningClass = 0 then ⟨k.done ++ s :: k.marks, some c, []⟩ else { k with marks := k.marks ++ [c] }

/-- The text composed as far as possible. -/
def composed (t : Text) : Text :=
  let k := t.decomposed.foldl Composing.add ⟨[], none, []⟩
  k.done ++ k.last.toList ++ k.marks

end Text

end RemoteSigning
