/- Properties of the characters of domain names: order of marks, direction and joining. A
range may take in characters that no domain name can have. -/
import BatchedGateway.Text.Pieces

namespace BatchedGateway.Unicode

/-- Tables of characters are written as hexadecimal ranges. -/
structure Range where
  first : Nat
  last : Nat
  deriving DecidableEq, Repr

namespace Range

def contains (r : Range) (n : Nat) : Bool := r.first ≤ n && n ≤ r.last

end Range

def hexDigit (c : Char) : Nat := if c.isDigit then c.toNat - 48 else c.toNat - 87

def hexNumber (cs : List Char) : Nat := cs.foldl (fun n c => n * 16 + hexDigit c) 0

/-- One number, or two with a dash between them. -/
def rangeOf (cs : List Char) : Range :=
  match Text.cutAt '-' cs with
  | (a, none) => ⟨hexNumber a, hexNumber a⟩
  | (a, some b) => ⟨hexNumber a, hexNumber b⟩

def wordsOf (lines : List String) : List (List Char) :=
  lines.flatMap fun line => Text.pieces ' ' line.toList

def rangesOf (lines : List String) : List Range := (wordsOf lines).map rangeOf

/-- Ranges with a label after a colon. -/
def labelledOf {α : Type} (label : List Char → α) (lines : List String) : List (Range × α) :=
  (wordsOf lines).map fun word =>
    match Text.cutAt ':' word with
    | (range, none) => (rangeOf range, label [])
    | (range, some name) => (rangeOf range, label name)

def inRanges (table : List Range) (c : Char) : Bool := table.any (·.contains c.toNat)

def labelAt? {α : Type} (table : List (Range × α)) (c : Char) : Option α :=
  (table.find? fun e => e.1.contains c.toNat).map (·.2)

def orderText : List String := [
  "300-314:230 315:232 316-319:220 31a:232 31b:216 31c-320:220 321-322:202 323-326:220",
  "327-328:202 329-333:220 334-338:1 339-33c:220 33d-346:230 347-349:220 34a-34c:230",
  "34d-34e:220 350-352:230 353-356:220 357:230 358:232 359-35a:220 35b:230 35c:233 35d-35e:234",
  "35f:233 360-361:234 362:233 363-36f:230 483-487:230 591:220 592-595:230 596:220 597-599:230",
  "59a:222 59b:220 59c-5a1:230 5a2-5a7:220 5a8-5a9:230 5aa:220 5ab-5ac:230 5ad:222 5ae:228",
  "5af:230 5b0:10 5b1:11 5b2:12 5b3:13 5b4:14 5b5:15 5b6:16 5b7:17 5b8:18 5b9-5ba:19 5bb:20",
  "5bc:21 5bd:22 5bf:23 5c1:24 5c2:25 5c4:230 5c5:220 5c7:18 610-617:230 618:30 619:31 61a:32",
  "64b:27 64c:28 64d:29 64e:30 64f:31 650:32 651:33 652:34 653-654:230 655-656:220 657-65b:230",
  "65c:220 65d-65e:230 65f:220 670:35 6d6-6dc:230 6df-6e2:230 6e3:220 6e4:230 6e7-6e8:230",
  "6ea:220 6eb-6ec:230 6ed:220 711:36 730:230 731:220 732-733:230 734:220 735-736:230",
  "737-739:220 73a:230 73b-73c:220 73d:230 73e:220 73f-741:230 742:220 743:230 744:220 745:230",
  "746:220 747:230 748:220 749-74a:230 7eb-7f1:230 7f2:220 7f3:230 7fd:220 816-819:230",
  "81b-823:230 825-827:230 829-82d:230 859-85b:220 898:230 899-89b:220 89c-89f:230 8ca-8ce:230",
  "8cf-8d3:220 8d4-8e1:230 8e3:220 8e4-8e5:230 8e6:220 8e7-8e8:230 8e9:220 8ea-8ec:230",
  "8ed-8ef:220 8f0:27 8f1:28 8f2:29 8f3-8f5:230 8f6:220 8f7-8f8:230 8f9-8fa:220 8fb-8ff:230",
  "93c:7 94d:9 951:230 952:220 953-954:230 9bc:7 9cd:9 9fe:230 a3c:7 a4d:9 abc:7 acd:9 b3c:7",
  "b4d:9 bcd:9 c3c:7 c4d:9 c55:84 c56:91 cbc:7 ccd:9 d3b-d3c:9 d4d:9 dca:9 e38-e39:103 e3a:9",
  "e48-e4b:107 eb8-eb9:118 eba:9 ec8-ecb:122 f18-f19:220 f35:220 f37:220 f39:216 f71:129",
  "f72:130 f74:132 f7a-f7d:130 f80:130 f82-f83:230 f84:9 f86-f87:230 fc6:220 1037:7 1039-103a:9",
  "108d:220 135d-135f:230 1714-1715:9 1734:9 17d2:9 17dd:230 18a9:228 1939:222 193a:230",
  "193b:220 1a17:230 1a18:220 1a60:9 1a75-1a7c:230 1a7f:220 1ab0-1ab4:230 1ab5-1aba:220",
  "1abb-1abc:230 1abd:220 1abf-1ac0:220 1ac1-1ac2:230 1ac3-1ac4:220 1ac5-1ac9:230 1aca:220",
  "1acb-1ace:230 1b34:7 1b44:9 1b6b:230 1b6c:220 1b6d-1b73:230 1baa-1bab:9 1be6:7 1bf2-1bf3:9",
  "1c37:7 1cd0-1cd2:230 1cd4:1 1cd5-1cd9:220 1cda-1cdb:230 1cdc-1cdf:220 1ce0:230 1ce2-1ce8:1",
  "1ced:220 1cf4:230 1cf8-1cf9:230 1dc0-1dc1:230 1dc2:220 1dc3-1dc9:230 1dca:220 1dcb-1dcc:230",
  "1dcd:234 1dce:214 1dcf:220 1dd0:202 1dd1-1df5:230 1df6:232 1df7-1df8:228 1df9:220 1dfa:218",
  "1dfb:230 1dfc:233 1dfd:220 1dfe:230 1dff:220 20d0-20d1:230 20d2-20d3:1 20d4-20d7:230",
  "20d8-20da:1 20db-20dc:230 20e1:230 20e5-20e6:1 20e7:230 20e8:220 20e9:230 20ea-20eb:1",
  "20ec-20ef:220 20f0:230 2cef-2cf1:230 2d7f:9 2de0-2dff:230 302a:218 302b:228 302c:232",
  "302d:222 302e-302f:224 3099-309a:8 a66f:230 a674-a67d:230 a69e-a69f:230 a6f0-a6f1:230 a806:9",
  "a82c:9 a8c4:9 a8e0-a8f1:230 a92b-a92d:220 a953:9 a9b3:7 a9c0:9 aab0:230 aab2-aab3:230",
  "aab4:220 aab7-aab8:230 aabe-aabf:230 aac1:230 aaf6:9 abed:9 fb1e:26 fe20-fe26:230",
  "fe27-fe2d:220 fe2e-fe2f:230 101fd:220 102e0:220 10376-1037a:230 10a0d:220 10a0f:230",
  "10a38:230 10a39:1 10a3a:220 10a3f:9 10ae5:230 10ae6:220 10d24-10d27:230 10eab-10eac:230",
  "10efd-10eff:220 10f46-10f47:220 10f48-10f4a:230 10f4b:220 10f4c:230 10f4d-10f50:220",
  "10f82:230 10f83:220 10f84:230 10f85:220 11046:9 11070:9 1107f:9 110b9:9 110ba:7",
  "11100-11102:230 11133-11134:9 11173:7 111c0:9 111ca:7 11235:9 11236:7 112e9:7 112ea:9",
  "1133b-1133c:7 1134d:9 11366-11374:230 11442:9 11446:7 1145e:230 114c2:9 114c3:7 115bf:9",
  "115c0:7 1163f:9 116b6:9 116b7:7 1172b:9 11839:9 1183a:7 1193d-1193e:9 11943:7 119e0:9",
  "11a34:9 11a47:9 11a99:9 11c3f:9 11d42:7 11d44-11d45:9 11d97:9 11f41-11f42:9 16af0-16af4:1",
  "16b30-16b36:230 16ff0-16ff1:6 1bc9e:1 1d165-1d166:216 1d167-1d169:1 1d16d:226",
  "1d16e-1d172:216 1d17b-1d182:220 1d185-1d189:230 1d18a-1d18b:220 1d1aa-1d1ad:230",
  "1d242-1d244:230 1e000-1e08f:230 1e130-1e136:230 1e2ae:230 1e2ec-1e2ef:230 1e4ec-1e4ed:232",
  "1e4ee:220 1e4ef:230 1e8d0-1e8d6:220 1e944-1e949:230 1e94a:7"]

def orderTable : List (Range × Nat) :=
  labelledOf (fun cs => Nat.ofDigitChars 10 cs 0) orderText

/-- The canonical combining class; zero for characters that are no marks. -/
def markOrder (c : Char) : Nat := (labelAt? orderTable c).getD 0

/-- The class of the signs that silence a vowel. -/
def viramaOrder : Nat := 9

def markText : List String := [
  "300-36f 483-489 591-5bd 5bf 5c1-5c2 5c4-5c5 5c7 610-61a 64b-65f 670 6d6-6dc 6df-6e4 6e7-6e8",
  "6ea-6ed 711 730-74a 7a6-7b0 7eb-7f3 7fd 816-819 81b-823 825-827 829-82d 859-85b 898-89f",
  "8ca-903 93a-93c 93e-94f 951-957 962-963 981-983 9bc 9be-9cd 9d7 9e2-9e3 9fe-a03 a3c-a51",
  "a70-a71 a75 a81-a83 abc abe-acd ae2-ae3 afa-b03 b3c b3e-b57 b62-b63 b82 bbe-bcd bd7 c00-c04",
  "c3c c3e-c56 c62-c63 c81-c83 cbc cbe-cd6 ce2-ce3 cf3-d03 d3b-d3c d3e-d4d d57 d62-d63 d81-d83",
  "dca-ddf df2-df3 e31 e34-e3a e47-e4e eb1 eb4-ebc ec8-ece f18-f19 f35 f37 f39 f3e-f3f f71-f84",
  "f86-f87 f8d-fbc fc6 102b-103e 1056-1059 105e-1060 1062-1064 1067-106d 1071-1074 1082-108d",
  "108f 109a-109d 135d-135f 1712-1715 1732-1734 1752-1753 1772-1773 17b6-17d3 17dd 1885-1886",
  "18a9 1920-193b 1a17-1a1b 1a55-1a7f 1ab0-1b04 1b34-1b44 1b6b-1b73 1b80-1b82 1ba1-1bad",
  "1be6-1bf3 1c24-1c37 1cd0-1cd2 1cd4-1ce8 1ced 1cf4 1cf7-1cf9 1dc0-1dff 20d0-20f0 2cef-2cf1",
  "2d7f 2de0-2dff 302a-302f 3099-309a a66f-a672 a674-a67d a69e-a69f a6f0-a6f1 a802 a806 a80b",
  "a823-a827 a82c a880-a881 a8b4-a8c5 a8e0-a8f1 a8ff a926-a92d a947-a953 a980-a983 a9b3-a9c0",
  "a9e5 aa29-aa36 aa43 aa4c-aa4d aa7b-aa7d aab0 aab2-aab4 aab7-aab8 aabe-aabf aac1 aaeb-aaef",
  "aaf5-aaf6 abe3-abea abec-abed fb1e fe20-fe2f 101fd 102e0 10376-1037a 10a01-10a0f 10a38-10a3f",
  "10ae5-10ae6 10d24-10d27 10eab-10eac 10efd-10eff 10f46-10f50 10f82-10f85 11000-11002",
  "11038-11046 11070 11073-11074 1107f-11082 110b0-110ba 110c2 11100-11102 11127-11134",
  "11145-11146 11173 11180-11182 111b3-111c0 111c9-111cc 111ce-111cf 1122c-11237 1123e 11241",
  "112df-112ea 11300-11303 1133b-1133c 1133e-1134d 11357 11362-11374 11435-11446 1145e",
  "114b0-114c3 115af-115c0 115dc-115dd 11630-11640 116ab-116b7 1171d-1172b 1182c-1183a",
  "11930-1193e 11940 11942-11943 119d1-119e0 119e4 11a01-11a0a 11a33-11a39 11a3b-11a3e 11a47",
  "11a51-11a5b 11a8a-11a99 11c2f-11c3f 11c92-11cb6 11d31-11d45 11d47 11d8a-11d97 11ef3-11ef6",
  "11f00-11f01 11f03 11f34-11f42 13440 13447-13455 16af0-16af4 16b30-16b36 16f4f 16f51-16f92",
  "16fe4-16ff1 1bc9d-1bc9e 1cf00-1cf46 1d165-1d169 1d16d-1d182 1d185-1d18b 1d1aa-1d1ad",
  "1d242-1d244 1da00-1da36 1da3b-1da6c 1da75 1da84 1da9b-1daaf 1e000-1e08f 1e130-1e136 1e2ae",
  "1e2ec-1e2ef 1e4ec-1e4ef 1e8d0-1e8d6 1e944-1e94a"]

def markTable : List Range := rangesOf markText

/-- Marks of any kind: they cannot start a label. -/
def isMark (c : Char) : Bool := inRanges markTable c

inductive Direction
  | left
  | right
  | arabic
  | arabicNumber
  | number
  | numberSign
  | numberEnd
  | separator
  | neutral
  | boundary
  | mark
  deriving DecidableEq, Repr

def Direction.ofLabel : List Char → Direction
  | ['R'] => right
  | ['A', 'L'] => arabic
  | ['A', 'N'] => arabicNumber
  | ['E', 'N'] => number
  | ['E', 'S'] => numberSign
  | ['E', 'T'] => numberEnd
  | ['C', 'S'] => separator
  | ['O', 'N'] => neutral
  | ['B', 'N'] => boundary
  | ['N', 'S', 'M'] => mark
  | _ => left

def directionText : List String := [
  "21-22:ON 24:ET 26-2a:ON 2b:ES 2c:CS 2d:ES 2e:CS 30-39:EN 3b-60:ON 7b-a1:ON a2-a5:ET a6-ae:ON",
  "b0-b1:ET b6-d7:ON f7:ON 2b9-2ba:ON 2c2-2cf:ON 2d2-2ed:ON 2ef-2ff:ON 300-36f:NSM 375:ON",
  "3f6:ON 483-489:NSM 58a-58e:ON 58f:ET 591-5bd:NSM 5be:R 5bf:NSM 5c0:R 5c1-5c2:NSM 5c3:R",
  "5c4-5c5:NSM 5c6:R 5c7:NSM 5d0-5f4:R 606-607:ON 608:AL 609-60a:ET 60b:AL 60c:CS 60d:AL",
  "60e-60f:ON 610-61a:NSM 61b-64a:AL 64b-65f:NSM 660-669:AN 66a:ET 66b-66c:AN 66d-66f:AL",
  "670:NSM 671-6d5:AL 6d6-6dc:NSM 6de:ON 6df-6e4:NSM 6e5-6e6:AL 6e7-6e8:NSM 6e9:ON 6ea-6ed:NSM",
  "6ee-6ef:AL 6f0-6f9:EN 6fa-710:AL 711:NSM 712-72f:AL 730-74a:NSM 74d-7a5:AL 7a6-7b0:NSM",
  "7b1:AL 7c0-7ea:R 7eb-7f3:NSM 7f4-7f5:R 7f6-7f9:ON 7fa:R 7fd:NSM 7fe-815:R 816-819:NSM 81a:R",
  "81b-823:NSM 824:R 825-827:NSM 828:R 829-82d:NSM 830-858:R 859-85b:NSM 85e:R 860-88e:AL",
  "898-89f:NSM 8a0-8c9:AL 8ca-902:NSM 93a:NSM 93c:NSM 941-948:NSM 94d:NSM 951-957:NSM",
  "962-963:NSM 981:NSM 9bc:NSM 9c1-9c4:NSM 9cd:NSM 9e2-9e3:NSM 9f2-9f3:ET 9fb:ET 9fe-a02:NSM",
  "a3c:NSM a41-a51:NSM a70-a71:NSM a75:NSM a81-a82:NSM abc:NSM ac1-ac8:NSM acd:NSM ae2-ae3:NSM",
  "af1:ET afa-b01:NSM b3c:NSM b3f:NSM b41-b44:NSM b4d-b56:NSM b62-b63:NSM b82:NSM bc0:NSM",
  "bcd:NSM bf3-bf8:ON bf9:ET bfa:ON c00:NSM c04:NSM c3c:NSM c3e-c40:NSM c46-c56:NSM c62-c63:NSM",
  "c78-c7e:ON c81:NSM cbc:NSM ccc-ccd:NSM ce2-ce3:NSM d00-d01:NSM d3b-d3c:NSM d41-d44:NSM",
  "d4d:NSM d62-d63:NSM d81:NSM dca:NSM dd2-dd6:NSM e31:NSM e34-e3a:NSM e3f:ET e47-e4e:NSM",
  "eb1:NSM eb4-ebc:NSM ec8-ece:NSM f18-f19:NSM f35:NSM f37:NSM f39:NSM f3a-f3d:ON f71-f7e:NSM",
  "f80-f84:NSM f86-f87:NSM f8d-fbc:NSM fc6:NSM 102d-1030:NSM 1032-1037:NSM 1039-103a:NSM",
  "103d-103e:NSM 1058-1059:NSM 105e-1060:NSM 1071-1074:NSM 1082:NSM 1085-1086:NSM 108d:NSM",
  "109d:NSM 135d-135f:NSM 1390-1399:ON 1400:ON 169b-169c:ON 1712-1714:NSM 1732-1733:NSM",
  "1752-1753:NSM 1772-1773:NSM 17b7-17bd:NSM 17c6:NSM 17c9-17d3:NSM 17db:ET 17dd:NSM",
  "17f0-180a:ON 1885-1886:NSM 18a9:NSM 1920-1922:NSM 1927-1928:NSM 1932:NSM 1939-193b:NSM",
  "1940-1945:ON 19de-19ff:ON 1a17-1a18:NSM 1a1b:NSM 1a56:NSM 1a58-1a60:NSM 1a62:NSM",
  "1a65-1a6c:NSM 1a73-1a7f:NSM 1ab0-1b03:NSM 1b34:NSM 1b36-1b3a:NSM 1b3c:NSM 1b42:NSM",
  "1b6b-1b73:NSM 1b80-1b81:NSM 1ba2-1ba5:NSM 1ba8-1ba9:NSM 1bab-1bad:NSM 1be6:NSM 1be8-1be9:NSM",
  "1bed:NSM 1bef-1bf1:NSM 1c2c-1c33:NSM 1c36-1c37:NSM 1cd0-1cd2:NSM 1cd4-1ce0:NSM 1ce2-1ce8:NSM",
  "1ced:NSM 1cf4:NSM 1cf8-1cf9:NSM 1dc0-1dff:NSM 200c-200d:BN 2010-2027:ON 2030-2032:ET",
  "2035-2043:ON 2044:CS 2045-205e:ON 20a0-20c0:ET 20d0-20f0:NSM 2104-2129:ON 212e:ET",
  "213a-214d:ON 218a-2211:ON 2212:ES 2213:ET 2214-2335:ON 237b-2394:ON 2396-26ab:ON",
  "26ad-27ff:ON 2900-2bff:ON 2ce5-2cea:ON 2cef-2cf1:NSM 2cf9-2cff:ON 2d7f:NSM 2de0-2dff:NSM",
  "2e00-3004:ON 3008-3020:ON 302a-302d:NSM 3030:ON 3037:ON 303d-303f:ON 3099-309a:NSM 30a0:ON",
  "30fb:ON 31c0-31e3:ON 4dc0-4dff:ON a490-a4c6:ON a60d-a60f:ON a66f-a672:NSM a673:ON",
  "a674-a67d:NSM a67e-a67f:ON a69e-a69f:NSM a6f0-a6f1:NSM a700-a721:ON a788:ON a802:NSM",
  "a806:NSM a80b:NSM a825-a826:NSM a828-a82b:ON a82c:NSM a838-a839:ET a874-a877:ON",
  "a8c4-a8c5:NSM a8e0-a8f1:NSM a8ff:NSM a926-a92d:NSM a947-a951:NSM a980-a982:NSM a9b3:NSM",
  "a9b6-a9b9:NSM a9bc-a9bd:NSM a9e5:NSM aa29-aa2e:NSM aa31-aa32:NSM aa35-aa36:NSM aa43:NSM",
  "aa4c:NSM aa7c:NSM aab0:NSM aab2-aab4:NSM aab7-aab8:NSM aabe-aabf:NSM aac1:NSM aaec-aaed:NSM",
  "aaf6:NSM ab6a-ab6b:ON abe5:NSM abe8:NSM abed:NSM fb1e:NSM fbb2-fbc2:AL fd3e-fdff:ON",
  "fe20-fe2f:NSM fe45-fe46:ON fe73:AL 10101:ON 10140-1018c:ON 10190-101a0:ON 101fd:NSM",
  "102e0:NSM 102e1-102fb:EN 10376-1037a:NSM 10800-1091b:R 1091f:ON 10920-10a00:R",
  "10a01-10a0f:NSM 10a10-10a35:R 10a38-10a3f:NSM 10a40-10ae4:R 10ae5-10ae6:NSM 10aeb-10b35:R",
  "10b39-10b3f:ON 10b40-10cff:R 10d00-10d23:AL 10d24-10d27:NSM 10d30-10e7e:AN 10e80-10ea9:R",
  "10eab-10eac:NSM 10ead-10eb1:R 10efd-10eff:NSM 10f00-10f27:R 10f30-10f45:AL 10f46-10f50:NSM",
  "10f51-10f59:AL 10f70-10f81:R 10f82-10f85:NSM 10f86-10ff6:R 11001:NSM 11038-11046:NSM",
  "11052-11065:ON 11070:NSM 11073-11074:NSM 1107f-11081:NSM 110b3-110b6:NSM 110b9-110ba:NSM",
  "110c2:NSM 11100-11102:NSM 11127-1112b:NSM 1112d-11134:NSM 11173:NSM 11180-11181:NSM",
  "111b6-111be:NSM 111c9-111cc:NSM 111cf:NSM 1122f-11231:NSM 11234:NSM 11236-11237:NSM",
  "1123e:NSM 11241:NSM 112df:NSM 112e3-112ea:NSM 11300-11301:NSM 1133b-1133c:NSM 11340:NSM",
  "11366-11374:NSM 11438-1143f:NSM 11442-11444:NSM 11446:NSM 1145e:NSM 114b3-114b8:NSM",
  "114ba:NSM 114bf-114c0:NSM 114c2-114c3:NSM 115b2-115b5:NSM 115bc-115bd:NSM 115bf-115c0:NSM",
  "115dc-115dd:NSM 11633-1163a:NSM 1163d:NSM 1163f-11640:NSM 11660-1166c:ON 116ab:NSM 116ad:NSM",
  "116b0-116b5:NSM 116b7:NSM 1171d-1171f:NSM 11722-11725:NSM 11727-1172b:NSM 1182f-11837:NSM",
  "11839-1183a:NSM 1193b-1193c:NSM 1193e:NSM 11943:NSM 119d4-119db:NSM 119e0:NSM",
  "11a01-11a06:NSM 11a09-11a0a:NSM 11a33-11a38:NSM 11a3b-11a3e:NSM 11a47:NSM 11a51-11a56:NSM",
  "11a59-11a5b:NSM 11a8a-11a96:NSM 11a98-11a99:NSM 11c30-11c3d:NSM 11c92-11ca7:NSM",
  "11caa-11cb0:NSM 11cb2-11cb3:NSM 11cb5-11cb6:NSM 11d31-11d45:NSM 11d47:NSM 11d90-11d91:NSM",
  "11d95:NSM 11d97:NSM 11ef3-11ef4:NSM 11f00-11f01:NSM 11f36-11f3a:NSM 11f40:NSM 11f42:NSM",
  "11fd5-11fdc:ON 11fdd-11fe0:ET 11fe1-11ff1:ON 13440:NSM 13447-13455:NSM 16af0-16af4:NSM",
  "16b30-16b36:NSM 16f4f:NSM 16f8f-16f92:NSM 16fe2:ON 16fe4:NSM 1bc9d-1bc9e:NSM 1cf00-1cf46:NSM",
  "1d167-1d169:NSM 1d17b-1d182:NSM 1d185-1d18b:NSM 1d1aa-1d1ad:NSM 1d1e9-1d241:ON",
  "1d242-1d244:NSM 1d245:ON 1d300-1d356:ON 1da00-1da36:NSM 1da3b-1da6c:NSM 1da75:NSM 1da84:NSM",
  "1da9b-1daaf:NSM 1e000-1e08f:NSM 1e130-1e136:NSM 1e2ae:NSM 1e2ec-1e2ef:NSM 1e2ff:ET",
  "1e4ec-1e4ef:NSM 1e800-1e8cf:R 1e8d0-1e8d6:NSM 1e922-1e943:R 1e944-1e94a:NSM 1e94b-1e95f:R",
  "1ec71-1ed3d:AL 1eef0-1f12f:ON 1f16d-1f16f:ON 1f1ad:ON 1f260-1fbca:ON"]

def directionTable : List (Range × Direction) := labelledOf Direction.ofLabel directionText

def direction (c : Char) : Direction := (labelAt? directionTable c).getD .left

inductive Joining
  | none
  | causing
  | left
  | right
  | dual
  | transparent
  deriving DecidableEq, Repr

def Joining.ofLabel : List Char → Joining
  | ['C'] => causing
  | ['L'] => left
  | ['R'] => right
  | ['D'] => dual
  | ['T'] => transparent
  | _ => none

def joiningText : List String := [
  "300-36f:T 483-489:T 591-5bd:T 5bf:T 5c1-5c2:T 5c4-5c5:T 5c7:T 610-61a:T 620:D 622-625:R",
  "626:D 627:R 628:D 629:R 62a-62e:D 62f-632:R 633-63f:D 640:C 641-647:D 648:R 649-64a:D",
  "64b-65f:T 66e-66f:D 670:T 671-673:R 679-687:D 688-699:R 69a-6bf:D 6c0:R 6c1-6c2:D 6c3-6cb:R",
  "6cc:D 6cd:R 6ce:D 6cf:R 6d0-6d1:D 6d2-6d3:R 6d5:R 6d6-6dc:T 6df-6e4:T 6e7-6e8:T 6ea-6ed:T",
  "6ee-6ef:R 6fa-6fc:D 6ff:D 710:R 711:T 712-714:D 715-719:R 71a-71d:D 71e:R 71f-727:D 728:R",
  "729:D 72a:R 72b:D 72c:R 72d-72e:D 72f:R 730-74a:T 74d:R 74e-758:D 759-75b:R 75c-76a:D",
  "76b-76c:R 76d-770:D 771:R 772:D 773-774:R 775-777:D 778-779:R 77a-77f:D 7a6-7b0:T 7ca-7ea:D",
  "7eb-7f3:T 7fa:C 7fd:T 816-819:T 81b-823:T 825-827:T 829-82d:T 840:R 841-845:D 846-847:R",
  "848:D 849:R 84a-853:D 854:R 855:D 856-858:R 859-85b:T 860:D 862-865:D 867:R 868:D 869-882:R",
  "883-885:C 886:D 889-88d:D 88e:R 898-89f:T 8a0-8a9:D 8aa-8ac:R 8ae:R 8af-8b0:D 8b1-8b2:R",
  "8b3-8b8:D 8b9:R 8ba-8c8:D 8ca-902:T 93a:T 93c:T 941-948:T 94d:T 951-957:T 962-963:T 981:T",
  "9bc:T 9c1-9c4:T 9cd:T 9e2-9e3:T 9fe-a02:T a3c:T a41-a51:T a70-a71:T a75:T a81-a82:T abc:T",
  "ac1-ac8:T acd:T ae2-ae3:T afa-b01:T b3c:T b3f:T b41-b44:T b4d-b56:T b62-b63:T b82:T bc0:T",
  "bcd:T c00:T c04:T c3c:T c3e-c40:T c46-c56:T c62-c63:T c81:T cbc:T cbf:T cc6:T ccc-ccd:T",
  "ce2-ce3:T d00-d01:T d3b-d3c:T d41-d44:T d4d:T d62-d63:T d81:T dca:T dd2-dd6:T e31:T",
  "e34-e3a:T e47-e4e:T eb1:T eb4-ebc:T ec8-ece:T f18-f19:T f35:T f37:T f39:T f71-f7e:T",
  "f80-f84:T f86-f87:T f8d-fbc:T fc6:T 102d-1030:T 1032-1037:T 1039-103a:T 103d-103e:T",
  "1058-1059:T 105e-1060:T 1071-1074:T 1082:T 1085-1086:T 108d:T 109d:T 135d-135f:T 1712-1714:T",
  "1732-1733:T 1752-1753:T 1772-1773:T 17b7-17bd:T 17c6:T 17c9-17d3:T 17dd:T 1807:D 180a:C",
  "1820-1878:D 1885-1886:T 1887-18a8:D 18a9:T 18aa:D 1920-1922:T 1927-1928:T 1932:T 1939-193b:T",
  "1a17-1a18:T 1a1b:T 1a56:T 1a58-1a60:T 1a62:T 1a65-1a6c:T 1a73-1a7f:T 1ab0-1b03:T 1b34:T",
  "1b36-1b3a:T 1b3c:T 1b42:T 1b6b-1b73:T 1b80-1b81:T 1ba2-1ba5:T 1ba8-1ba9:T 1bab-1bad:T 1be6:T",
  "1be8-1be9:T 1bed:T 1bef-1bf1:T 1c2c-1c33:T 1c36-1c37:T 1cd0-1cd2:T 1cd4-1ce0:T 1ce2-1ce8:T",
  "1ced:T 1cf4:T 1cf8-1cf9:T 1dc0-1dff:T 200d:C 20d0-20f0:T 2cef-2cf1:T 2d7f:T 2de0-2dff:T",
  "302a-302d:T 3099-309a:T a66f-a672:T a674-a67d:T a69e-a69f:T a6f0-a6f1:T a802:T a806:T a80b:T",
  "a825-a826:T a82c:T a840-a871:D a872:L a8c4-a8c5:T a8e0-a8f1:T a8ff:T a926-a92d:T a947-a951:T",
  "a980-a982:T a9b3:T a9b6-a9b9:T a9bc-a9bd:T a9e5:T aa29-aa2e:T aa31-aa32:T aa35-aa36:T aa43:T",
  "aa4c:T aa7c:T aab0:T aab2-aab4:T aab7-aab8:T aabe-aabf:T aac1:T aaec-aaed:T aaf6:T abe5:T",
  "abe8:T abed:T fb1e:T fe20-fe2f:T 101fd:T 102e0:T 10376-1037a:T 10a01-10a0f:T 10a38-10a3f:T",
  "10ac0-10ac4:D 10ac5:R 10ac7:R 10ac9-10aca:R 10acd:L 10ace-10ad2:R 10ad3-10ad6:D 10ad7:L",
  "10ad8-10adc:D 10add:R 10ade-10ae0:D 10ae1:R 10ae4:R 10ae5-10ae6:T 10aeb-10aee:D 10aef:R",
  "10b80:D 10b81:R 10b82:D 10b83-10b85:R 10b86-10b88:D 10b89:R 10b8a-10b8b:D 10b8c:R 10b8d:D",
  "10b8e-10b8f:R 10b90:D 10b91:R 10ba9-10bac:R 10bad-10bae:D 10d00:L 10d01-10d21:D 10d22:R",
  "10d23:D 10d24-10d27:T 10eab-10eac:T 10efd-10eff:T 10f30-10f32:D 10f33:R 10f34-10f44:D",
  "10f46-10f50:T 10f51-10f53:D 10f54:R 10f70-10f73:D 10f74-10f75:R 10f76-10f81:D 10f82-10f85:T",
  "10fb0:D 10fb2-10fb3:D 10fb4-10fb6:R 10fb8:D 10fb9-10fba:R 10fbb-10fbc:D 10fbd:R",
  "10fbe-10fbf:D 10fc1:D 10fc2-10fc3:R 10fc4:D 10fc9:R 10fca:D 10fcb:L 11001:T 11038-11046:T",
  "11070:T 11073-11074:T 1107f-11081:T 110b3-110b6:T 110b9-110ba:T 110c2:T 11100-11102:T",
  "11127-1112b:T 1112d-11134:T 11173:T 11180-11181:T 111b6-111be:T 111c9-111cc:T 111cf:T",
  "1122f-11231:T 11234:T 11236-11237:T 1123e:T 11241:T 112df:T 112e3-112ea:T 11300-11301:T",
  "1133b-1133c:T 11340:T 11366-11374:T 11438-1143f:T 11442-11444:T 11446:T 1145e:T",
  "114b3-114b8:T 114ba:T 114bf-114c0:T 114c2-114c3:T 115b2-115b5:T 115bc-115bd:T 115bf-115c0:T",
  "115dc-115dd:T 11633-1163a:T 1163d:T 1163f-11640:T 116ab:T 116ad:T 116b0-116b5:T 116b7:T",
  "1171d-1171f:T 11722-11725:T 11727-1172b:T 1182f-11837:T 11839-1183a:T 1193b-1193c:T 1193e:T",
  "11943:T 119d4-119db:T 119e0:T 11a01-11a0a:T 11a33-11a38:T 11a3b-11a3e:T 11a47:T",
  "11a51-11a56:T 11a59-11a5b:T 11a8a-11a96:T 11a98-11a99:T 11c30-11c3d:T 11c3f:T 11c92-11ca7:T",
  "11caa-11cb0:T 11cb2-11cb3:T 11cb5-11cb6:T 11d31-11d45:T 11d47:T 11d90-11d91:T 11d95:T",
  "11d97:T 11ef3-11ef4:T 11f00-11f01:T 11f36-11f3a:T 11f40:T 11f42:T 13440:T 13447-13455:T",
  "16af0-16af4:T 16b30-16b36:T 16f4f:T 16f8f-16f92:T 16fe4:T 1bc9d-1bc9e:T 1cf00-1cf46:T",
  "1d167-1d169:T 1d17b-1d182:T 1d185-1d18b:T 1d1aa-1d1ad:T 1d242-1d244:T 1da00-1da36:T",
  "1da3b-1da6c:T 1da75:T 1da84:T 1da9b-1daaf:T 1e000-1e08f:T 1e130-1e136:T 1e2ae:T",
  "1e2ec-1e2ef:T 1e4ec-1e4ef:T 1e8d0-1e8d6:T 1e922-1e943:D 1e944-1e94b:T"]

def joiningTable : List (Range × Joining) := labelledOf Joining.ofLabel joiningText

def joining (c : Char) : Joining := (labelAt? joiningTable c).getD .none

end BatchedGateway.Unicode
