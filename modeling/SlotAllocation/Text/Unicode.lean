import SlotAllocation.Text.Printable

/-!
# Unicode character data

The general categories, the scripts and the simple case folding of Unicode 15.0.0, as the
named classes `\p{...}`, case-insensitive matching and comparison of keys up to case use
them. Each table is a list of lines, the entries of a line separated by `;` and code points
written in hexadecimal:

* `categoryLines`: `first-last Cat` (or `point Cat`) for every assigned code point, with its
  two-letter general category; unassigned code points are left out;
* `scriptLines`: the same with the script name, for every code point of a script;
* `foldLines`: the classes of characters that are equal under simple case folding, their
  members separated by spaces. A character in no class folds only to itself.

The tables are read once into lists (`categoryEntries`, `scriptEntries`, `foldClasses`).
-/

namespace SlotAllocation.Text

/-- Reads the entries `range Name` of a line of a table. -/
def readEntries (text : String) : List (Nat × Nat × String) :=
  (text.splitOn ";").filterMap fun entry =>
    match entry.splitOn " " with
    | [r, name] => let (lo, hi) := readRange r; some (lo, hi, name)
    | _ => none

/-- Every assigned code point with its general category. -/
def categoryLines : List String :=
  ["0-1f Cc;20 Zs;21-23 Po;24 Sc;25-27 Po;28 Ps;29 Pe;2a Po;2b Sm;2c Po;2d Pd;2e-2f Po;30-39 Nd",
   "3a-3b Po;3c-3e Sm;3f-40 Po;41-5a Lu;5b Ps;5c Po;5d Pe;5e Sk;5f Pc;60 Sk;61-7a Ll;7b Ps",
   "7c Sm;7d Pe;7e Sm;7f-9f Cc;a0 Zs;a1 Po;a2-a5 Sc;a6 So;a7 Po;a8 Sk;a9 So;aa Lo;ab Pi;ac Sm",
   "ad Cf;ae So;af Sk;b0 So;b1 Sm;b2-b3 No;b4 Sk;b5 Ll;b6-b7 Po;b8 Sk;b9 No;ba Lo;bb Pf",
   "bc-be No;bf Po;c0-d6 Lu;d7 Sm;d8-de Lu;df-f6 Ll;f7 Sm;f8-ff Ll;100 Lu;101 Ll;102 Lu;103 Ll",
   "104 Lu;105 Ll;106 Lu;107 Ll;108 Lu;109 Ll;10a Lu;10b Ll;10c Lu;10d Ll;10e Lu;10f Ll;110 Lu",
   "111 Ll;112 Lu;113 Ll;114 Lu;115 Ll;116 Lu;117 Ll;118 Lu;119 Ll;11a Lu;11b Ll;11c Lu;11d Ll",
   "11e Lu;11f Ll;120 Lu;121 Ll;122 Lu;123 Ll;124 Lu;125 Ll;126 Lu;127 Ll;128 Lu;129 Ll;12a Lu",
   "12b Ll;12c Lu;12d Ll;12e Lu;12f Ll;130 Lu;131 Ll;132 Lu;133 Ll;134 Lu;135 Ll;136 Lu",
   "137-138 Ll;139 Lu;13a Ll;13b Lu;13c Ll;13d Lu;13e Ll;13f Lu;140 Ll;141 Lu;142 Ll;143 Lu",
   "144 Ll;145 Lu;146 Ll;147 Lu;148-149 Ll;14a Lu;14b Ll;14c Lu;14d Ll;14e Lu;14f Ll;150 Lu",
   "151 Ll;152 Lu;153 Ll;154 Lu;155 Ll;156 Lu;157 Ll;158 Lu;159 Ll;15a Lu;15b Ll;15c Lu;15d Ll",
   "15e Lu;15f Ll;160 Lu;161 Ll;162 Lu;163 Ll;164 Lu;165 Ll;166 Lu;167 Ll;168 Lu;169 Ll;16a Lu",
   "16b Ll;16c Lu;16d Ll;16e Lu;16f Ll;170 Lu;171 Ll;172 Lu;173 Ll;174 Lu;175 Ll;176 Lu;177 Ll",
   "178-179 Lu;17a Ll;17b Lu;17c Ll;17d Lu;17e-180 Ll;181-182 Lu;183 Ll;184 Lu;185 Ll",
   "186-187 Lu;188 Ll;189-18b Lu;18c-18d Ll;18e-191 Lu;192 Ll;193-194 Lu;195 Ll;196-198 Lu",
   "199-19b Ll;19c-19d Lu;19e Ll;19f-1a0 Lu;1a1 Ll;1a2 Lu;1a3 Ll;1a4 Lu;1a5 Ll;1a6-1a7 Lu",
   "1a8 Ll;1a9 Lu;1aa-1ab Ll;1ac Lu;1ad Ll;1ae-1af Lu;1b0 Ll;1b1-1b3 Lu;1b4 Ll;1b5 Lu;1b6 Ll",
   "1b7-1b8 Lu;1b9-1ba Ll;1bb Lo;1bc Lu;1bd-1bf Ll;1c0-1c3 Lo;1c4 Lu;1c5 Lt;1c6 Ll;1c7 Lu",
   "1c8 Lt;1c9 Ll;1ca Lu;1cb Lt;1cc Ll;1cd Lu;1ce Ll;1cf Lu;1d0 Ll;1d1 Lu;1d2 Ll;1d3 Lu;1d4 Ll",
   "1d5 Lu;1d6 Ll;1d7 Lu;1d8 Ll;1d9 Lu;1da Ll;1db Lu;1dc-1dd Ll;1de Lu;1df Ll;1e0 Lu;1e1 Ll",
   "1e2 Lu;1e3 Ll;1e4 Lu;1e5 Ll;1e6 Lu;1e7 Ll;1e8 Lu;1e9 Ll;1ea Lu;1eb Ll;1ec Lu;1ed Ll;1ee Lu",
   "1ef-1f0 Ll;1f1 Lu;1f2 Lt;1f3 Ll;1f4 Lu;1f5 Ll;1f6-1f8 Lu;1f9 Ll;1fa Lu;1fb Ll;1fc Lu;1fd Ll",
   "1fe Lu;1ff Ll;200 Lu;201 Ll;202 Lu;203 Ll;204 Lu;205 Ll;206 Lu;207 Ll;208 Lu;209 Ll;20a Lu",
   "20b Ll;20c Lu;20d Ll;20e Lu;20f Ll;210 Lu;211 Ll;212 Lu;213 Ll;214 Lu;215 Ll;216 Lu;217 Ll",
   "218 Lu;219 Ll;21a Lu;21b Ll;21c Lu;21d Ll;21e Lu;21f Ll;220 Lu;221 Ll;222 Lu;223 Ll;224 Lu",
   "225 Ll;226 Lu;227 Ll;228 Lu;229 Ll;22a Lu;22b Ll;22c Lu;22d Ll;22e Lu;22f Ll;230 Lu;231 Ll",
   "232 Lu;233-239 Ll;23a-23b Lu;23c Ll;23d-23e Lu;23f-240 Ll;241 Lu;242 Ll;243-246 Lu;247 Ll",
   "248 Lu;249 Ll;24a Lu;24b Ll;24c Lu;24d Ll;24e Lu;24f-293 Ll;294 Lo;295-2af Ll;2b0-2c1 Lm",
   "2c2-2c5 Sk;2c6-2d1 Lm;2d2-2df Sk;2e0-2e4 Lm;2e5-2eb Sk;2ec Lm;2ed Sk;2ee Lm;2ef-2ff Sk",
   "300-36f Mn;370 Lu;371 Ll;372 Lu;373 Ll;374 Lm;375 Sk;376 Lu;377 Ll;37a Lm;37b-37d Ll;37e Po",
   "37f Lu;384-385 Sk;386 Lu;387 Po;388-38a Lu;38c Lu;38e-38f Lu;390 Ll;391-3a1 Lu;3a3-3ab Lu",
   "3ac-3ce Ll;3cf Lu;3d0-3d1 Ll;3d2-3d4 Lu;3d5-3d7 Ll;3d8 Lu;3d9 Ll;3da Lu;3db Ll;3dc Lu",
   "3dd Ll;3de Lu;3df Ll;3e0 Lu;3e1 Ll;3e2 Lu;3e3 Ll;3e4 Lu;3e5 Ll;3e6 Lu;3e7 Ll;3e8 Lu;3e9 Ll",
   "3ea Lu;3eb Ll;3ec Lu;3ed Ll;3ee Lu;3ef-3f3 Ll;3f4 Lu;3f5 Ll;3f6 Sm;3f7 Lu;3f8 Ll;3f9-3fa Lu",
   "3fb-3fc Ll;3fd-42f Lu;430-45f Ll;460 Lu;461 Ll;462 Lu;463 Ll;464 Lu;465 Ll;466 Lu;467 Ll",
   "468 Lu;469 Ll;46a Lu;46b Ll;46c Lu;46d Ll;46e Lu;46f Ll;470 Lu;471 Ll;472 Lu;473 Ll;474 Lu",
   "475 Ll;476 Lu;477 Ll;478 Lu;479 Ll;47a Lu;47b Ll;47c Lu;47d Ll;47e Lu;47f Ll;480 Lu;481 Ll",
   "482 So;483-487 Mn;488-489 Me;48a Lu;48b Ll;48c Lu;48d Ll;48e Lu;48f Ll;490 Lu;491 Ll;492 Lu",
   "493 Ll;494 Lu;495 Ll;496 Lu;497 Ll;498 Lu;499 Ll;49a Lu;49b Ll;49c Lu;49d Ll;49e Lu;49f Ll",
   "4a0 Lu;4a1 Ll;4a2 Lu;4a3 Ll;4a4 Lu;4a5 Ll;4a6 Lu;4a7 Ll;4a8 Lu;4a9 Ll;4aa Lu;4ab Ll;4ac Lu",
   "4ad Ll;4ae Lu;4af Ll;4b0 Lu;4b1 Ll;4b2 Lu;4b3 Ll;4b4 Lu;4b5 Ll;4b6 Lu;4b7 Ll;4b8 Lu;4b9 Ll",
   "4ba Lu;4bb Ll;4bc Lu;4bd Ll;4be Lu;4bf Ll;4c0-4c1 Lu;4c2 Ll;4c3 Lu;4c4 Ll;4c5 Lu;4c6 Ll",
   "4c7 Lu;4c8 Ll;4c9 Lu;4ca Ll;4cb Lu;4cc Ll;4cd Lu;4ce-4cf Ll;4d0 Lu;4d1 Ll;4d2 Lu;4d3 Ll",
   "4d4 Lu;4d5 Ll;4d6 Lu;4d7 Ll;4d8 Lu;4d9 Ll;4da Lu;4db Ll;4dc Lu;4dd Ll;4de Lu;4df Ll;4e0 Lu",
   "4e1 Ll;4e2 Lu;4e3 Ll;4e4 Lu;4e5 Ll;4e6 Lu;4e7 Ll;4e8 Lu;4e9 Ll;4ea Lu;4eb Ll;4ec Lu;4ed Ll",
   "4ee Lu;4ef Ll;4f0 Lu;4f1 Ll;4f2 Lu;4f3 Ll;4f4 Lu;4f5 Ll;4f6 Lu;4f7 Ll;4f8 Lu;4f9 Ll;4fa Lu",
   "4fb Ll;4fc Lu;4fd Ll;4fe Lu;4ff Ll;500 Lu;501 Ll;502 Lu;503 Ll;504 Lu;505 Ll;506 Lu;507 Ll",
   "508 Lu;509 Ll;50a Lu;50b Ll;50c Lu;50d Ll;50e Lu;50f Ll;510 Lu;511 Ll;512 Lu;513 Ll;514 Lu",
   "515 Ll;516 Lu;517 Ll;518 Lu;519 Ll;51a Lu;51b Ll;51c Lu;51d Ll;51e Lu;51f Ll;520 Lu;521 Ll",
   "522 Lu;523 Ll;524 Lu;525 Ll;526 Lu;527 Ll;528 Lu;529 Ll;52a Lu;52b Ll;52c Lu;52d Ll;52e Lu",
   "52f Ll;531-556 Lu;559 Lm;55a-55f Po;560-588 Ll;589 Po;58a Pd;58d-58e So;58f Sc;591-5bd Mn",
   "5be Pd;5bf Mn;5c0 Po;5c1-5c2 Mn;5c3 Po;5c4-5c5 Mn;5c6 Po;5c7 Mn;5d0-5ea Lo;5ef-5f2 Lo",
   "5f3-5f4 Po;600-605 Cf;606-608 Sm;609-60a Po;60b Sc;60c-60d Po;60e-60f So;610-61a Mn;61b Po",
   "61c Cf;61d-61f Po;620-63f Lo;640 Lm;641-64a Lo;64b-65f Mn;660-669 Nd;66a-66d Po;66e-66f Lo",
   "670 Mn;671-6d3 Lo;6d4 Po;6d5 Lo;6d6-6dc Mn;6dd Cf;6de So;6df-6e4 Mn;6e5-6e6 Lm;6e7-6e8 Mn",
   "6e9 So;6ea-6ed Mn;6ee-6ef Lo;6f0-6f9 Nd;6fa-6fc Lo;6fd-6fe So;6ff Lo;700-70d Po;70f Cf",
   "710 Lo;711 Mn;712-72f Lo;730-74a Mn;74d-7a5 Lo;7a6-7b0 Mn;7b1 Lo;7c0-7c9 Nd;7ca-7ea Lo",
   "7eb-7f3 Mn;7f4-7f5 Lm;7f6 So;7f7-7f9 Po;7fa Lm;7fd Mn;7fe-7ff Sc;800-815 Lo;816-819 Mn",
   "81a Lm;81b-823 Mn;824 Lm;825-827 Mn;828 Lm;829-82d Mn;830-83e Po;840-858 Lo;859-85b Mn",
   "85e Po;860-86a Lo;870-887 Lo;888 Sk;889-88e Lo;890-891 Cf;898-89f Mn;8a0-8c8 Lo;8c9 Lm",
   "8ca-8e1 Mn;8e2 Cf;8e3-902 Mn;903 Mc;904-939 Lo;93a Mn;93b Mc;93c Mn;93d Lo;93e-940 Mc",
   "941-948 Mn;949-94c Mc;94d Mn;94e-94f Mc;950 Lo;951-957 Mn;958-961 Lo;962-963 Mn;964-965 Po",
   "966-96f Nd;970 Po;971 Lm;972-980 Lo;981 Mn;982-983 Mc;985-98c Lo;98f-990 Lo;993-9a8 Lo",
   "9aa-9b0 Lo;9b2 Lo;9b6-9b9 Lo;9bc Mn;9bd Lo;9be-9c0 Mc;9c1-9c4 Mn;9c7-9c8 Mc;9cb-9cc Mc",
   "9cd Mn;9ce Lo;9d7 Mc;9dc-9dd Lo;9df-9e1 Lo;9e2-9e3 Mn;9e6-9ef Nd;9f0-9f1 Lo;9f2-9f3 Sc",
   "9f4-9f9 No;9fa So;9fb Sc;9fc Lo;9fd Po;9fe Mn;a01-a02 Mn;a03 Mc;a05-a0a Lo;a0f-a10 Lo",
   "a13-a28 Lo;a2a-a30 Lo;a32-a33 Lo;a35-a36 Lo;a38-a39 Lo;a3c Mn;a3e-a40 Mc;a41-a42 Mn",
   "a47-a48 Mn;a4b-a4d Mn;a51 Mn;a59-a5c Lo;a5e Lo;a66-a6f Nd;a70-a71 Mn;a72-a74 Lo;a75 Mn",
   "a76 Po;a81-a82 Mn;a83 Mc;a85-a8d Lo;a8f-a91 Lo;a93-aa8 Lo;aaa-ab0 Lo;ab2-ab3 Lo;ab5-ab9 Lo",
   "abc Mn;abd Lo;abe-ac0 Mc;ac1-ac5 Mn;ac7-ac8 Mn;ac9 Mc;acb-acc Mc;acd Mn;ad0 Lo;ae0-ae1 Lo",
   "ae2-ae3 Mn;ae6-aef Nd;af0 Po;af1 Sc;af9 Lo;afa-aff Mn;b01 Mn;b02-b03 Mc;b05-b0c Lo",
   "b0f-b10 Lo;b13-b28 Lo;b2a-b30 Lo;b32-b33 Lo;b35-b39 Lo;b3c Mn;b3d Lo;b3e Mc;b3f Mn;b40 Mc",
   "b41-b44 Mn;b47-b48 Mc;b4b-b4c Mc;b4d Mn;b55-b56 Mn;b57 Mc;b5c-b5d Lo;b5f-b61 Lo;b62-b63 Mn",
   "b66-b6f Nd;b70 So;b71 Lo;b72-b77 No;b82 Mn;b83 Lo;b85-b8a Lo;b8e-b90 Lo;b92-b95 Lo",
   "b99-b9a Lo;b9c Lo;b9e-b9f Lo;ba3-ba4 Lo;ba8-baa Lo;bae-bb9 Lo;bbe-bbf Mc;bc0 Mn;bc1-bc2 Mc",
   "bc6-bc8 Mc;bca-bcc Mc;bcd Mn;bd0 Lo;bd7 Mc;be6-bef Nd;bf0-bf2 No;bf3-bf8 So;bf9 Sc;bfa So",
   "c00 Mn;c01-c03 Mc;c04 Mn;c05-c0c Lo;c0e-c10 Lo;c12-c28 Lo;c2a-c39 Lo;c3c Mn;c3d Lo",
   "c3e-c40 Mn;c41-c44 Mc;c46-c48 Mn;c4a-c4d Mn;c55-c56 Mn;c58-c5a Lo;c5d Lo;c60-c61 Lo",
   "c62-c63 Mn;c66-c6f Nd;c77 Po;c78-c7e No;c7f So;c80 Lo;c81 Mn;c82-c83 Mc;c84 Po;c85-c8c Lo",
   "c8e-c90 Lo;c92-ca8 Lo;caa-cb3 Lo;cb5-cb9 Lo;cbc Mn;cbd Lo;cbe Mc;cbf Mn;cc0-cc4 Mc;cc6 Mn",
   "cc7-cc8 Mc;cca-ccb Mc;ccc-ccd Mn;cd5-cd6 Mc;cdd-cde Lo;ce0-ce1 Lo;ce2-ce3 Mn;ce6-cef Nd",
   "cf1-cf2 Lo;cf3 Mc;d00-d01 Mn;d02-d03 Mc;d04-d0c Lo;d0e-d10 Lo;d12-d3a Lo;d3b-d3c Mn;d3d Lo",
   "d3e-d40 Mc;d41-d44 Mn;d46-d48 Mc;d4a-d4c Mc;d4d Mn;d4e Lo;d4f So;d54-d56 Lo;d57 Mc",
   "d58-d5e No;d5f-d61 Lo;d62-d63 Mn;d66-d6f Nd;d70-d78 No;d79 So;d7a-d7f Lo;d81 Mn;d82-d83 Mc",
   "d85-d96 Lo;d9a-db1 Lo;db3-dbb Lo;dbd Lo;dc0-dc6 Lo;dca Mn;dcf-dd1 Mc;dd2-dd4 Mn;dd6 Mn",
   "dd8-ddf Mc;de6-def Nd;df2-df3 Mc;df4 Po;e01-e30 Lo;e31 Mn;e32-e33 Lo;e34-e3a Mn;e3f Sc",
   "e40-e45 Lo;e46 Lm;e47-e4e Mn;e4f Po;e50-e59 Nd;e5a-e5b Po;e81-e82 Lo;e84 Lo;e86-e8a Lo",
   "e8c-ea3 Lo;ea5 Lo;ea7-eb0 Lo;eb1 Mn;eb2-eb3 Lo;eb4-ebc Mn;ebd Lo;ec0-ec4 Lo;ec6 Lm",
   "ec8-ece Mn;ed0-ed9 Nd;edc-edf Lo;f00 Lo;f01-f03 So;f04-f12 Po;f13 So;f14 Po;f15-f17 So",
   "f18-f19 Mn;f1a-f1f So;f20-f29 Nd;f2a-f33 No;f34 So;f35 Mn;f36 So;f37 Mn;f38 So;f39 Mn",
   "f3a Ps;f3b Pe;f3c Ps;f3d Pe;f3e-f3f Mc;f40-f47 Lo;f49-f6c Lo;f71-f7e Mn;f7f Mc;f80-f84 Mn",
   "f85 Po;f86-f87 Mn;f88-f8c Lo;f8d-f97 Mn;f99-fbc Mn;fbe-fc5 So;fc6 Mn;fc7-fcc So;fce-fcf So",
   "fd0-fd4 Po;fd5-fd8 So;fd9-fda Po;1000-102a Lo;102b-102c Mc;102d-1030 Mn;1031 Mc",
   "1032-1037 Mn;1038 Mc;1039-103a Mn;103b-103c Mc;103d-103e Mn;103f Lo;1040-1049 Nd",
   "104a-104f Po;1050-1055 Lo;1056-1057 Mc;1058-1059 Mn;105a-105d Lo;105e-1060 Mn;1061 Lo",
   "1062-1064 Mc;1065-1066 Lo;1067-106d Mc;106e-1070 Lo;1071-1074 Mn;1075-1081 Lo;1082 Mn",
   "1083-1084 Mc;1085-1086 Mn;1087-108c Mc;108d Mn;108e Lo;108f Mc;1090-1099 Nd;109a-109c Mc",
   "109d Mn;109e-109f So;10a0-10c5 Lu;10c7 Lu;10cd Lu;10d0-10fa Ll;10fb Po;10fc Lm;10fd-10ff Ll",
   "1100-1248 Lo;124a-124d Lo;1250-1256 Lo;1258 Lo;125a-125d Lo;1260-1288 Lo;128a-128d Lo",
   "1290-12b0 Lo;12b2-12b5 Lo;12b8-12be Lo;12c0 Lo;12c2-12c5 Lo;12c8-12d6 Lo;12d8-1310 Lo",
   "1312-1315 Lo;1318-135a Lo;135d-135f Mn;1360-1368 Po;1369-137c No;1380-138f Lo;1390-1399 So",
   "13a0-13f5 Lu;13f8-13fd Ll;1400 Pd;1401-166c Lo;166d So;166e Po;166f-167f Lo;1680 Zs",
   "1681-169a Lo;169b Ps;169c Pe;16a0-16ea Lo;16eb-16ed Po;16ee-16f0 Nl;16f1-16f8 Lo",
   "1700-1711 Lo;1712-1714 Mn;1715 Mc;171f-1731 Lo;1732-1733 Mn;1734 Mc;1735-1736 Po",
   "1740-1751 Lo;1752-1753 Mn;1760-176c Lo;176e-1770 Lo;1772-1773 Mn;1780-17b3 Lo;17b4-17b5 Mn",
   "17b6 Mc;17b7-17bd Mn;17be-17c5 Mc;17c6 Mn;17c7-17c8 Mc;17c9-17d3 Mn;17d4-17d6 Po;17d7 Lm",
   "17d8-17da Po;17db Sc;17dc Lo;17dd Mn;17e0-17e9 Nd;17f0-17f9 No;1800-1805 Po;1806 Pd",
   "1807-180a Po;180b-180d Mn;180e Cf;180f Mn;1810-1819 Nd;1820-1842 Lo;1843 Lm;1844-1878 Lo",
   "1880-1884 Lo;1885-1886 Mn;1887-18a8 Lo;18a9 Mn;18aa Lo;18b0-18f5 Lo;1900-191e Lo",
   "1920-1922 Mn;1923-1926 Mc;1927-1928 Mn;1929-192b Mc;1930-1931 Mc;1932 Mn;1933-1938 Mc",
   "1939-193b Mn;1940 So;1944-1945 Po;1946-194f Nd;1950-196d Lo;1970-1974 Lo;1980-19ab Lo",
   "19b0-19c9 Lo;19d0-19d9 Nd;19da No;19de-19ff So;1a00-1a16 Lo;1a17-1a18 Mn;1a19-1a1a Mc",
   "1a1b Mn;1a1e-1a1f Po;1a20-1a54 Lo;1a55 Mc;1a56 Mn;1a57 Mc;1a58-1a5e Mn;1a60 Mn;1a61 Mc",
   "1a62 Mn;1a63-1a64 Mc;1a65-1a6c Mn;1a6d-1a72 Mc;1a73-1a7c Mn;1a7f Mn;1a80-1a89 Nd",
   "1a90-1a99 Nd;1aa0-1aa6 Po;1aa7 Lm;1aa8-1aad Po;1ab0-1abd Mn;1abe Me;1abf-1ace Mn",
   "1b00-1b03 Mn;1b04 Mc;1b05-1b33 Lo;1b34 Mn;1b35 Mc;1b36-1b3a Mn;1b3b Mc;1b3c Mn;1b3d-1b41 Mc",
   "1b42 Mn;1b43-1b44 Mc;1b45-1b4c Lo;1b50-1b59 Nd;1b5a-1b60 Po;1b61-1b6a So;1b6b-1b73 Mn",
   "1b74-1b7c So;1b7d-1b7e Po;1b80-1b81 Mn;1b82 Mc;1b83-1ba0 Lo;1ba1 Mc;1ba2-1ba5 Mn",
   "1ba6-1ba7 Mc;1ba8-1ba9 Mn;1baa Mc;1bab-1bad Mn;1bae-1baf Lo;1bb0-1bb9 Nd;1bba-1be5 Lo",
   "1be6 Mn;1be7 Mc;1be8-1be9 Mn;1bea-1bec Mc;1bed Mn;1bee Mc;1bef-1bf1 Mn;1bf2-1bf3 Mc",
   "1bfc-1bff Po;1c00-1c23 Lo;1c24-1c2b Mc;1c2c-1c33 Mn;1c34-1c35 Mc;1c36-1c37 Mn;1c3b-1c3f Po",
   "1c40-1c49 Nd;1c4d-1c4f Lo;1c50-1c59 Nd;1c5a-1c77 Lo;1c78-1c7d Lm;1c7e-1c7f Po;1c80-1c88 Ll",
   "1c90-1cba Lu;1cbd-1cbf Lu;1cc0-1cc7 Po;1cd0-1cd2 Mn;1cd3 Po;1cd4-1ce0 Mn;1ce1 Mc",
   "1ce2-1ce8 Mn;1ce9-1cec Lo;1ced Mn;1cee-1cf3 Lo;1cf4 Mn;1cf5-1cf6 Lo;1cf7 Mc;1cf8-1cf9 Mn",
   "1cfa Lo;1d00-1d2b Ll;1d2c-1d6a Lm;1d6b-1d77 Ll;1d78 Lm;1d79-1d9a Ll;1d9b-1dbf Lm",
   "1dc0-1dff Mn;1e00 Lu;1e01 Ll;1e02 Lu;1e03 Ll;1e04 Lu;1e05 Ll;1e06 Lu;1e07 Ll;1e08 Lu",
   "1e09 Ll;1e0a Lu;1e0b Ll;1e0c Lu;1e0d Ll;1e0e Lu;1e0f Ll;1e10 Lu;1e11 Ll;1e12 Lu;1e13 Ll",
   "1e14 Lu;1e15 Ll;1e16 Lu;1e17 Ll;1e18 Lu;1e19 Ll;1e1a Lu;1e1b Ll;1e1c Lu;1e1d Ll;1e1e Lu",
   "1e1f Ll;1e20 Lu;1e21 Ll;1e22 Lu;1e23 Ll;1e24 Lu;1e25 Ll;1e26 Lu;1e27 Ll;1e28 Lu;1e29 Ll",
   "1e2a Lu;1e2b Ll;1e2c Lu;1e2d Ll;1e2e Lu;1e2f Ll;1e30 Lu;1e31 Ll;1e32 Lu;1e33 Ll;1e34 Lu",
   "1e35 Ll;1e36 Lu;1e37 Ll;1e38 Lu;1e39 Ll;1e3a Lu;1e3b Ll;1e3c Lu;1e3d Ll;1e3e Lu;1e3f Ll",
   "1e40 Lu;1e41 Ll;1e42 Lu;1e43 Ll;1e44 Lu;1e45 Ll;1e46 Lu;1e47 Ll;1e48 Lu;1e49 Ll;1e4a Lu",
   "1e4b Ll;1e4c Lu;1e4d Ll;1e4e Lu;1e4f Ll;1e50 Lu;1e51 Ll;1e52 Lu;1e53 Ll;1e54 Lu;1e55 Ll",
   "1e56 Lu;1e57 Ll;1e58 Lu;1e59 Ll;1e5a Lu;1e5b Ll;1e5c Lu;1e5d Ll;1e5e Lu;1e5f Ll;1e60 Lu",
   "1e61 Ll;1e62 Lu;1e63 Ll;1e64 Lu;1e65 Ll;1e66 Lu;1e67 Ll;1e68 Lu;1e69 Ll;1e6a Lu;1e6b Ll",
   "1e6c Lu;1e6d Ll;1e6e Lu;1e6f Ll;1e70 Lu;1e71 Ll;1e72 Lu;1e73 Ll;1e74 Lu;1e75 Ll;1e76 Lu",
   "1e77 Ll;1e78 Lu;1e79 Ll;1e7a Lu;1e7b Ll;1e7c Lu;1e7d Ll;1e7e Lu;1e7f Ll;1e80 Lu;1e81 Ll",
   "1e82 Lu;1e83 Ll;1e84 Lu;1e85 Ll;1e86 Lu;1e87 Ll;1e88 Lu;1e89 Ll;1e8a Lu;1e8b Ll;1e8c Lu",
   "1e8d Ll;1e8e Lu;1e8f Ll;1e90 Lu;1e91 Ll;1e92 Lu;1e93 Ll;1e94 Lu;1e95-1e9d Ll;1e9e Lu",
   "1e9f Ll;1ea0 Lu;1ea1 Ll;1ea2 Lu;1ea3 Ll;1ea4 Lu;1ea5 Ll;1ea6 Lu;1ea7 Ll;1ea8 Lu;1ea9 Ll",
   "1eaa Lu;1eab Ll;1eac Lu;1ead Ll;1eae Lu;1eaf Ll;1eb0 Lu;1eb1 Ll;1eb2 Lu;1eb3 Ll;1eb4 Lu",
   "1eb5 Ll;1eb6 Lu;1eb7 Ll;1eb8 Lu;1eb9 Ll;1eba Lu;1ebb Ll;1ebc Lu;1ebd Ll;1ebe Lu;1ebf Ll",
   "1ec0 Lu;1ec1 Ll;1ec2 Lu;1ec3 Ll;1ec4 Lu;1ec5 Ll;1ec6 Lu;1ec7 Ll;1ec8 Lu;1ec9 Ll;1eca Lu",
   "1ecb Ll;1ecc Lu;1ecd Ll;1ece Lu;1ecf Ll;1ed0 Lu;1ed1 Ll;1ed2 Lu;1ed3 Ll;1ed4 Lu;1ed5 Ll",
   "1ed6 Lu;1ed7 Ll;1ed8 Lu;1ed9 Ll;1eda Lu;1edb Ll;1edc Lu;1edd Ll;1ede Lu;1edf Ll;1ee0 Lu",
   "1ee1 Ll;1ee2 Lu;1ee3 Ll;1ee4 Lu;1ee5 Ll;1ee6 Lu;1ee7 Ll;1ee8 Lu;1ee9 Ll;1eea Lu;1eeb Ll",
   "1eec Lu;1eed Ll;1eee Lu;1eef Ll;1ef0 Lu;1ef1 Ll;1ef2 Lu;1ef3 Ll;1ef4 Lu;1ef5 Ll;1ef6 Lu",
   "1ef7 Ll;1ef8 Lu;1ef9 Ll;1efa Lu;1efb Ll;1efc Lu;1efd Ll;1efe Lu;1eff-1f07 Ll;1f08-1f0f Lu",
   "1f10-1f15 Ll;1f18-1f1d Lu;1f20-1f27 Ll;1f28-1f2f Lu;1f30-1f37 Ll;1f38-1f3f Lu;1f40-1f45 Ll",
   "1f48-1f4d Lu;1f50-1f57 Ll;1f59 Lu;1f5b Lu;1f5d Lu;1f5f Lu;1f60-1f67 Ll;1f68-1f6f Lu",
   "1f70-1f7d Ll;1f80-1f87 Ll;1f88-1f8f Lt;1f90-1f97 Ll;1f98-1f9f Lt;1fa0-1fa7 Ll;1fa8-1faf Lt",
   "1fb0-1fb4 Ll;1fb6-1fb7 Ll;1fb8-1fbb Lu;1fbc Lt;1fbd Sk;1fbe Ll;1fbf-1fc1 Sk;1fc2-1fc4 Ll",
   "1fc6-1fc7 Ll;1fc8-1fcb Lu;1fcc Lt;1fcd-1fcf Sk;1fd0-1fd3 Ll;1fd6-1fd7 Ll;1fd8-1fdb Lu",
   "1fdd-1fdf Sk;1fe0-1fe7 Ll;1fe8-1fec Lu;1fed-1fef Sk;1ff2-1ff4 Ll;1ff6-1ff7 Ll;1ff8-1ffb Lu",
   "1ffc Lt;1ffd-1ffe Sk;2000-200a Zs;200b-200f Cf;2010-2015 Pd;2016-2017 Po;2018 Pi;2019 Pf",
   "201a Ps;201b-201c Pi;201d Pf;201e Ps;201f Pi;2020-2027 Po;2028 Zl;2029 Zp;202a-202e Cf",
   "202f Zs;2030-2038 Po;2039 Pi;203a Pf;203b-203e Po;203f-2040 Pc;2041-2043 Po;2044 Sm;2045 Ps",
   "2046 Pe;2047-2051 Po;2052 Sm;2053 Po;2054 Pc;2055-205e Po;205f Zs;2060-2064 Cf;2066-206f Cf",
   "2070 No;2071 Lm;2074-2079 No;207a-207c Sm;207d Ps;207e Pe;207f Lm;2080-2089 No;208a-208c Sm",
   "208d Ps;208e Pe;2090-209c Lm;20a0-20c0 Sc;20d0-20dc Mn;20dd-20e0 Me;20e1 Mn;20e2-20e4 Me",
   "20e5-20f0 Mn;2100-2101 So;2102 Lu;2103-2106 So;2107 Lu;2108-2109 So;210a Ll;210b-210d Lu",
   "210e-210f Ll;2110-2112 Lu;2113 Ll;2114 So;2115 Lu;2116-2117 So;2118 Sm;2119-211d Lu",
   "211e-2123 So;2124 Lu;2125 So;2126 Lu;2127 So;2128 Lu;2129 So;212a-212d Lu;212e So;212f Ll",
   "2130-2133 Lu;2134 Ll;2135-2138 Lo;2139 Ll;213a-213b So;213c-213d Ll;213e-213f Lu",
   "2140-2144 Sm;2145 Lu;2146-2149 Ll;214a So;214b Sm;214c-214d So;214e Ll;214f So;2150-215f No",
   "2160-2182 Nl;2183 Lu;2184 Ll;2185-2188 Nl;2189 No;218a-218b So;2190-2194 Sm;2195-2199 So",
   "219a-219b Sm;219c-219f So;21a0 Sm;21a1-21a2 So;21a3 Sm;21a4-21a5 So;21a6 Sm;21a7-21ad So",
   "21ae Sm;21af-21cd So;21ce-21cf Sm;21d0-21d1 So;21d2 Sm;21d3 So;21d4 Sm;21d5-21f3 So",
   "21f4-22ff Sm;2300-2307 So;2308 Ps;2309 Pe;230a Ps;230b Pe;230c-231f So;2320-2321 Sm",
   "2322-2328 So;2329 Ps;232a Pe;232b-237b So;237c Sm;237d-239a So;239b-23b3 Sm;23b4-23db So",
   "23dc-23e1 Sm;23e2-2426 So;2440-244a So;2460-249b No;249c-24e9 So;24ea-24ff No;2500-25b6 So",
   "25b7 Sm;25b8-25c0 So;25c1 Sm;25c2-25f7 So;25f8-25ff Sm;2600-266e So;266f Sm;2670-2767 So",
   "2768 Ps;2769 Pe;276a Ps;276b Pe;276c Ps;276d Pe;276e Ps;276f Pe;2770 Ps;2771 Pe;2772 Ps",
   "2773 Pe;2774 Ps;2775 Pe;2776-2793 No;2794-27bf So;27c0-27c4 Sm;27c5 Ps;27c6 Pe;27c7-27e5 Sm",
   "27e6 Ps;27e7 Pe;27e8 Ps;27e9 Pe;27ea Ps;27eb Pe;27ec Ps;27ed Pe;27ee Ps;27ef Pe",
   "27f0-27ff Sm;2800-28ff So;2900-2982 Sm;2983 Ps;2984 Pe;2985 Ps;2986 Pe;2987 Ps;2988 Pe",
   "2989 Ps;298a Pe;298b Ps;298c Pe;298d Ps;298e Pe;298f Ps;2990 Pe;2991 Ps;2992 Pe;2993 Ps",
   "2994 Pe;2995 Ps;2996 Pe;2997 Ps;2998 Pe;2999-29d7 Sm;29d8 Ps;29d9 Pe;29da Ps;29db Pe",
   "29dc-29fb Sm;29fc Ps;29fd Pe;29fe-2aff Sm;2b00-2b2f So;2b30-2b44 Sm;2b45-2b46 So",
   "2b47-2b4c Sm;2b4d-2b73 So;2b76-2b95 So;2b97-2bff So;2c00-2c2f Lu;2c30-2c5f Ll;2c60 Lu",
   "2c61 Ll;2c62-2c64 Lu;2c65-2c66 Ll;2c67 Lu;2c68 Ll;2c69 Lu;2c6a Ll;2c6b Lu;2c6c Ll",
   "2c6d-2c70 Lu;2c71 Ll;2c72 Lu;2c73-2c74 Ll;2c75 Lu;2c76-2c7b Ll;2c7c-2c7d Lm;2c7e-2c80 Lu",
   "2c81 Ll;2c82 Lu;2c83 Ll;2c84 Lu;2c85 Ll;2c86 Lu;2c87 Ll;2c88 Lu;2c89 Ll;2c8a Lu;2c8b Ll",
   "2c8c Lu;2c8d Ll;2c8e Lu;2c8f Ll;2c90 Lu;2c91 Ll;2c92 Lu;2c93 Ll;2c94 Lu;2c95 Ll;2c96 Lu",
   "2c97 Ll;2c98 Lu;2c99 Ll;2c9a Lu;2c9b Ll;2c9c Lu;2c9d Ll;2c9e Lu;2c9f Ll;2ca0 Lu;2ca1 Ll",
   "2ca2 Lu;2ca3 Ll;2ca4 Lu;2ca5 Ll;2ca6 Lu;2ca7 Ll;2ca8 Lu;2ca9 Ll;2caa Lu;2cab Ll;2cac Lu",
   "2cad Ll;2cae Lu;2caf Ll;2cb0 Lu;2cb1 Ll;2cb2 Lu;2cb3 Ll;2cb4 Lu;2cb5 Ll;2cb6 Lu;2cb7 Ll",
   "2cb8 Lu;2cb9 Ll;2cba Lu;2cbb Ll;2cbc Lu;2cbd Ll;2cbe Lu;2cbf Ll;2cc0 Lu;2cc1 Ll;2cc2 Lu",
   "2cc3 Ll;2cc4 Lu;2cc5 Ll;2cc6 Lu;2cc7 Ll;2cc8 Lu;2cc9 Ll;2cca Lu;2ccb Ll;2ccc Lu;2ccd Ll",
   "2cce Lu;2ccf Ll;2cd0 Lu;2cd1 Ll;2cd2 Lu;2cd3 Ll;2cd4 Lu;2cd5 Ll;2cd6 Lu;2cd7 Ll;2cd8 Lu",
   "2cd9 Ll;2cda Lu;2cdb Ll;2cdc Lu;2cdd Ll;2cde Lu;2cdf Ll;2ce0 Lu;2ce1 Ll;2ce2 Lu",
   "2ce3-2ce4 Ll;2ce5-2cea So;2ceb Lu;2cec Ll;2ced Lu;2cee Ll;2cef-2cf1 Mn;2cf2 Lu;2cf3 Ll",
   "2cf9-2cfc Po;2cfd No;2cfe-2cff Po;2d00-2d25 Ll;2d27 Ll;2d2d Ll;2d30-2d67 Lo;2d6f Lm;2d70 Po",
   "2d7f Mn;2d80-2d96 Lo;2da0-2da6 Lo;2da8-2dae Lo;2db0-2db6 Lo;2db8-2dbe Lo;2dc0-2dc6 Lo",
   "2dc8-2dce Lo;2dd0-2dd6 Lo;2dd8-2dde Lo;2de0-2dff Mn;2e00-2e01 Po;2e02 Pi;2e03 Pf;2e04 Pi",
   "2e05 Pf;2e06-2e08 Po;2e09 Pi;2e0a Pf;2e0b Po;2e0c Pi;2e0d Pf;2e0e-2e16 Po;2e17 Pd",
   "2e18-2e19 Po;2e1a Pd;2e1b Po;2e1c Pi;2e1d Pf;2e1e-2e1f Po;2e20 Pi;2e21 Pf;2e22 Ps;2e23 Pe",
   "2e24 Ps;2e25 Pe;2e26 Ps;2e27 Pe;2e28 Ps;2e29 Pe;2e2a-2e2e Po;2e2f Lm;2e30-2e39 Po",
   "2e3a-2e3b Pd;2e3c-2e3f Po;2e40 Pd;2e41 Po;2e42 Ps;2e43-2e4f Po;2e50-2e51 So;2e52-2e54 Po",
   "2e55 Ps;2e56 Pe;2e57 Ps;2e58 Pe;2e59 Ps;2e5a Pe;2e5b Ps;2e5c Pe;2e5d Pd;2e80-2e99 So",
   "2e9b-2ef3 So;2f00-2fd5 So;2ff0-2ffb So;3000 Zs;3001-3003 Po;3004 So;3005 Lm;3006 Lo;3007 Nl",
   "3008 Ps;3009 Pe;300a Ps;300b Pe;300c Ps;300d Pe;300e Ps;300f Pe;3010 Ps;3011 Pe",
   "3012-3013 So;3014 Ps;3015 Pe;3016 Ps;3017 Pe;3018 Ps;3019 Pe;301a Ps;301b Pe;301c Pd",
   "301d Ps;301e-301f Pe;3020 So;3021-3029 Nl;302a-302d Mn;302e-302f Mc;3030 Pd;3031-3035 Lm",
   "3036-3037 So;3038-303a Nl;303b Lm;303c Lo;303d Po;303e-303f So;3041-3096 Lo;3099-309a Mn",
   "309b-309c Sk;309d-309e Lm;309f Lo;30a0 Pd;30a1-30fa Lo;30fb Po;30fc-30fe Lm;30ff Lo",
   "3105-312f Lo;3131-318e Lo;3190-3191 So;3192-3195 No;3196-319f So;31a0-31bf Lo;31c0-31e3 So",
   "31f0-31ff Lo;3200-321e So;3220-3229 No;322a-3247 So;3248-324f No;3250 So;3251-325f No",
   "3260-327f So;3280-3289 No;328a-32b0 So;32b1-32bf No;32c0-33ff So;3400-4dbf Lo;4dc0-4dff So",
   "4e00-a014 Lo;a015 Lm;a016-a48c Lo;a490-a4c6 So;a4d0-a4f7 Lo;a4f8-a4fd Lm;a4fe-a4ff Po",
   "a500-a60b Lo;a60c Lm;a60d-a60f Po;a610-a61f Lo;a620-a629 Nd;a62a-a62b Lo;a640 Lu;a641 Ll",
   "a642 Lu;a643 Ll;a644 Lu;a645 Ll;a646 Lu;a647 Ll;a648 Lu;a649 Ll;a64a Lu;a64b Ll;a64c Lu",
   "a64d Ll;a64e Lu;a64f Ll;a650 Lu;a651 Ll;a652 Lu;a653 Ll;a654 Lu;a655 Ll;a656 Lu;a657 Ll",
   "a658 Lu;a659 Ll;a65a Lu;a65b Ll;a65c Lu;a65d Ll;a65e Lu;a65f Ll;a660 Lu;a661 Ll;a662 Lu",
   "a663 Ll;a664 Lu;a665 Ll;a666 Lu;a667 Ll;a668 Lu;a669 Ll;a66a Lu;a66b Ll;a66c Lu;a66d Ll",
   "a66e Lo;a66f Mn;a670-a672 Me;a673 Po;a674-a67d Mn;a67e Po;a67f Lm;a680 Lu;a681 Ll;a682 Lu",
   "a683 Ll;a684 Lu;a685 Ll;a686 Lu;a687 Ll;a688 Lu;a689 Ll;a68a Lu;a68b Ll;a68c Lu;a68d Ll",
   "a68e Lu;a68f Ll;a690 Lu;a691 Ll;a692 Lu;a693 Ll;a694 Lu;a695 Ll;a696 Lu;a697 Ll;a698 Lu",
   "a699 Ll;a69a Lu;a69b Ll;a69c-a69d Lm;a69e-a69f Mn;a6a0-a6e5 Lo;a6e6-a6ef Nl;a6f0-a6f1 Mn",
   "a6f2-a6f7 Po;a700-a716 Sk;a717-a71f Lm;a720-a721 Sk;a722 Lu;a723 Ll;a724 Lu;a725 Ll;a726 Lu",
   "a727 Ll;a728 Lu;a729 Ll;a72a Lu;a72b Ll;a72c Lu;a72d Ll;a72e Lu;a72f-a731 Ll;a732 Lu",
   "a733 Ll;a734 Lu;a735 Ll;a736 Lu;a737 Ll;a738 Lu;a739 Ll;a73a Lu;a73b Ll;a73c Lu;a73d Ll",
   "a73e Lu;a73f Ll;a740 Lu;a741 Ll;a742 Lu;a743 Ll;a744 Lu;a745 Ll;a746 Lu;a747 Ll;a748 Lu",
   "a749 Ll;a74a Lu;a74b Ll;a74c Lu;a74d Ll;a74e Lu;a74f Ll;a750 Lu;a751 Ll;a752 Lu;a753 Ll",
   "a754 Lu;a755 Ll;a756 Lu;a757 Ll;a758 Lu;a759 Ll;a75a Lu;a75b Ll;a75c Lu;a75d Ll;a75e Lu",
   "a75f Ll;a760 Lu;a761 Ll;a762 Lu;a763 Ll;a764 Lu;a765 Ll;a766 Lu;a767 Ll;a768 Lu;a769 Ll",
   "a76a Lu;a76b Ll;a76c Lu;a76d Ll;a76e Lu;a76f Ll;a770 Lm;a771-a778 Ll;a779 Lu;a77a Ll",
   "a77b Lu;a77c Ll;a77d-a77e Lu;a77f Ll;a780 Lu;a781 Ll;a782 Lu;a783 Ll;a784 Lu;a785 Ll",
   "a786 Lu;a787 Ll;a788 Lm;a789-a78a Sk;a78b Lu;a78c Ll;a78d Lu;a78e Ll;a78f Lo;a790 Lu",
   "a791 Ll;a792 Lu;a793-a795 Ll;a796 Lu;a797 Ll;a798 Lu;a799 Ll;a79a Lu;a79b Ll;a79c Lu",
   "a79d Ll;a79e Lu;a79f Ll;a7a0 Lu;a7a1 Ll;a7a2 Lu;a7a3 Ll;a7a4 Lu;a7a5 Ll;a7a6 Lu;a7a7 Ll",
   "a7a8 Lu;a7a9 Ll;a7aa-a7ae Lu;a7af Ll;a7b0-a7b4 Lu;a7b5 Ll;a7b6 Lu;a7b7 Ll;a7b8 Lu;a7b9 Ll",
   "a7ba Lu;a7bb Ll;a7bc Lu;a7bd Ll;a7be Lu;a7bf Ll;a7c0 Lu;a7c1 Ll;a7c2 Lu;a7c3 Ll",
   "a7c4-a7c7 Lu;a7c8 Ll;a7c9 Lu;a7ca Ll;a7d0 Lu;a7d1 Ll;a7d3 Ll;a7d5 Ll;a7d6 Lu;a7d7 Ll",
   "a7d8 Lu;a7d9 Ll;a7f2-a7f4 Lm;a7f5 Lu;a7f6 Ll;a7f7 Lo;a7f8-a7f9 Lm;a7fa Ll;a7fb-a801 Lo",
   "a802 Mn;a803-a805 Lo;a806 Mn;a807-a80a Lo;a80b Mn;a80c-a822 Lo;a823-a824 Mc;a825-a826 Mn",
   "a827 Mc;a828-a82b So;a82c Mn;a830-a835 No;a836-a837 So;a838 Sc;a839 So;a840-a873 Lo",
   "a874-a877 Po;a880-a881 Mc;a882-a8b3 Lo;a8b4-a8c3 Mc;a8c4-a8c5 Mn;a8ce-a8cf Po;a8d0-a8d9 Nd",
   "a8e0-a8f1 Mn;a8f2-a8f7 Lo;a8f8-a8fa Po;a8fb Lo;a8fc Po;a8fd-a8fe Lo;a8ff Mn;a900-a909 Nd",
   "a90a-a925 Lo;a926-a92d Mn;a92e-a92f Po;a930-a946 Lo;a947-a951 Mn;a952-a953 Mc;a95f Po",
   "a960-a97c Lo;a980-a982 Mn;a983 Mc;a984-a9b2 Lo;a9b3 Mn;a9b4-a9b5 Mc;a9b6-a9b9 Mn",
   "a9ba-a9bb Mc;a9bc-a9bd Mn;a9be-a9c0 Mc;a9c1-a9cd Po;a9cf Lm;a9d0-a9d9 Nd;a9de-a9df Po",
   "a9e0-a9e4 Lo;a9e5 Mn;a9e6 Lm;a9e7-a9ef Lo;a9f0-a9f9 Nd;a9fa-a9fe Lo;aa00-aa28 Lo",
   "aa29-aa2e Mn;aa2f-aa30 Mc;aa31-aa32 Mn;aa33-aa34 Mc;aa35-aa36 Mn;aa40-aa42 Lo;aa43 Mn",
   "aa44-aa4b Lo;aa4c Mn;aa4d Mc;aa50-aa59 Nd;aa5c-aa5f Po;aa60-aa6f Lo;aa70 Lm;aa71-aa76 Lo",
   "aa77-aa79 So;aa7a Lo;aa7b Mc;aa7c Mn;aa7d Mc;aa7e-aaaf Lo;aab0 Mn;aab1 Lo;aab2-aab4 Mn",
   "aab5-aab6 Lo;aab7-aab8 Mn;aab9-aabd Lo;aabe-aabf Mn;aac0 Lo;aac1 Mn;aac2 Lo;aadb-aadc Lo",
   "aadd Lm;aade-aadf Po;aae0-aaea Lo;aaeb Mc;aaec-aaed Mn;aaee-aaef Mc;aaf0-aaf1 Po;aaf2 Lo",
   "aaf3-aaf4 Lm;aaf5 Mc;aaf6 Mn;ab01-ab06 Lo;ab09-ab0e Lo;ab11-ab16 Lo;ab20-ab26 Lo",
   "ab28-ab2e Lo;ab30-ab5a Ll;ab5b Sk;ab5c-ab5f Lm;ab60-ab68 Ll;ab69 Lm;ab6a-ab6b Sk",
   "ab70-abbf Ll;abc0-abe2 Lo;abe3-abe4 Mc;abe5 Mn;abe6-abe7 Mc;abe8 Mn;abe9-abea Mc;abeb Po",
   "abec Mc;abed Mn;abf0-abf9 Nd;ac00-d7a3 Lo;d7b0-d7c6 Lo;d7cb-d7fb Lo;d800-dfff Cs",
   "e000-f8ff Co;f900-fa6d Lo;fa70-fad9 Lo;fb00-fb06 Ll;fb13-fb17 Ll;fb1d Lo;fb1e Mn",
   "fb1f-fb28 Lo;fb29 Sm;fb2a-fb36 Lo;fb38-fb3c Lo;fb3e Lo;fb40-fb41 Lo;fb43-fb44 Lo",
   "fb46-fbb1 Lo;fbb2-fbc2 Sk;fbd3-fd3d Lo;fd3e Pe;fd3f Ps;fd40-fd4f So;fd50-fd8f Lo",
   "fd92-fdc7 Lo;fdcf So;fdf0-fdfb Lo;fdfc Sc;fdfd-fdff So;fe00-fe0f Mn;fe10-fe16 Po;fe17 Ps",
   "fe18 Pe;fe19 Po;fe20-fe2f Mn;fe30 Po;fe31-fe32 Pd;fe33-fe34 Pc;fe35 Ps;fe36 Pe;fe37 Ps",
   "fe38 Pe;fe39 Ps;fe3a Pe;fe3b Ps;fe3c Pe;fe3d Ps;fe3e Pe;fe3f Ps;fe40 Pe;fe41 Ps;fe42 Pe",
   "fe43 Ps;fe44 Pe;fe45-fe46 Po;fe47 Ps;fe48 Pe;fe49-fe4c Po;fe4d-fe4f Pc;fe50-fe52 Po",
   "fe54-fe57 Po;fe58 Pd;fe59 Ps;fe5a Pe;fe5b Ps;fe5c Pe;fe5d Ps;fe5e Pe;fe5f-fe61 Po;fe62 Sm",
   "fe63 Pd;fe64-fe66 Sm;fe68 Po;fe69 Sc;fe6a-fe6b Po;fe70-fe74 Lo;fe76-fefc Lo;feff Cf",
   "ff01-ff03 Po;ff04 Sc;ff05-ff07 Po;ff08 Ps;ff09 Pe;ff0a Po;ff0b Sm;ff0c Po;ff0d Pd",
   "ff0e-ff0f Po;ff10-ff19 Nd;ff1a-ff1b Po;ff1c-ff1e Sm;ff1f-ff20 Po;ff21-ff3a Lu;ff3b Ps",
   "ff3c Po;ff3d Pe;ff3e Sk;ff3f Pc;ff40 Sk;ff41-ff5a Ll;ff5b Ps;ff5c Sm;ff5d Pe;ff5e Sm",
   "ff5f Ps;ff60 Pe;ff61 Po;ff62 Ps;ff63 Pe;ff64-ff65 Po;ff66-ff6f Lo;ff70 Lm;ff71-ff9d Lo",
   "ff9e-ff9f Lm;ffa0-ffbe Lo;ffc2-ffc7 Lo;ffca-ffcf Lo;ffd2-ffd7 Lo;ffda-ffdc Lo;ffe0-ffe1 Sc",
   "ffe2 Sm;ffe3 Sk;ffe4 So;ffe5-ffe6 Sc;ffe8 So;ffe9-ffec Sm;ffed-ffee So;fff9-fffb Cf",
   "fffc-fffd So;10000-1000b Lo;1000d-10026 Lo;10028-1003a Lo;1003c-1003d Lo;1003f-1004d Lo",
   "10050-1005d Lo;10080-100fa Lo;10100-10102 Po;10107-10133 No;10137-1013f So;10140-10174 Nl",
   "10175-10178 No;10179-10189 So;1018a-1018b No;1018c-1018e So;10190-1019c So;101a0 So",
   "101d0-101fc So;101fd Mn;10280-1029c Lo;102a0-102d0 Lo;102e0 Mn;102e1-102fb No",
   "10300-1031f Lo;10320-10323 No;1032d-10340 Lo;10341 Nl;10342-10349 Lo;1034a Nl",
   "10350-10375 Lo;10376-1037a Mn;10380-1039d Lo;1039f Po;103a0-103c3 Lo;103c8-103cf Lo",
   "103d0 Po;103d1-103d5 Nl;10400-10427 Lu;10428-1044f Ll;10450-1049d Lo;104a0-104a9 Nd",
   "104b0-104d3 Lu;104d8-104fb Ll;10500-10527 Lo;10530-10563 Lo;1056f Po;10570-1057a Lu",
   "1057c-1058a Lu;1058c-10592 Lu;10594-10595 Lu;10597-105a1 Ll;105a3-105b1 Ll;105b3-105b9 Ll",
   "105bb-105bc Ll;10600-10736 Lo;10740-10755 Lo;10760-10767 Lo;10780-10785 Lm;10787-107b0 Lm",
   "107b2-107ba Lm;10800-10805 Lo;10808 Lo;1080a-10835 Lo;10837-10838 Lo;1083c Lo",
   "1083f-10855 Lo;10857 Po;10858-1085f No;10860-10876 Lo;10877-10878 So;10879-1087f No",
   "10880-1089e Lo;108a7-108af No;108e0-108f2 Lo;108f4-108f5 Lo;108fb-108ff No;10900-10915 Lo",
   "10916-1091b No;1091f Po;10920-10939 Lo;1093f Po;10980-109b7 Lo;109bc-109bd No",
   "109be-109bf Lo;109c0-109cf No;109d2-109ff No;10a00 Lo;10a01-10a03 Mn;10a05-10a06 Mn",
   "10a0c-10a0f Mn;10a10-10a13 Lo;10a15-10a17 Lo;10a19-10a35 Lo;10a38-10a3a Mn;10a3f Mn",
   "10a40-10a48 No;10a50-10a58 Po;10a60-10a7c Lo;10a7d-10a7e No;10a7f Po;10a80-10a9c Lo",
   "10a9d-10a9f No;10ac0-10ac7 Lo;10ac8 So;10ac9-10ae4 Lo;10ae5-10ae6 Mn;10aeb-10aef No",
   "10af0-10af6 Po;10b00-10b35 Lo;10b39-10b3f Po;10b40-10b55 Lo;10b58-10b5f No;10b60-10b72 Lo",
   "10b78-10b7f No;10b80-10b91 Lo;10b99-10b9c Po;10ba9-10baf No;10c00-10c48 Lo;10c80-10cb2 Lu",
   "10cc0-10cf2 Ll;10cfa-10cff No;10d00-10d23 Lo;10d24-10d27 Mn;10d30-10d39 Nd;10e60-10e7e No",
   "10e80-10ea9 Lo;10eab-10eac Mn;10ead Pd;10eb0-10eb1 Lo;10efd-10eff Mn;10f00-10f1c Lo",
   "10f1d-10f26 No;10f27 Lo;10f30-10f45 Lo;10f46-10f50 Mn;10f51-10f54 No;10f55-10f59 Po",
   "10f70-10f81 Lo;10f82-10f85 Mn;10f86-10f89 Po;10fb0-10fc4 Lo;10fc5-10fcb No;10fe0-10ff6 Lo",
   "11000 Mc;11001 Mn;11002 Mc;11003-11037 Lo;11038-11046 Mn;11047-1104d Po;11052-11065 No",
   "11066-1106f Nd;11070 Mn;11071-11072 Lo;11073-11074 Mn;11075 Lo;1107f-11081 Mn;11082 Mc",
   "11083-110af Lo;110b0-110b2 Mc;110b3-110b6 Mn;110b7-110b8 Mc;110b9-110ba Mn;110bb-110bc Po",
   "110bd Cf;110be-110c1 Po;110c2 Mn;110cd Cf;110d0-110e8 Lo;110f0-110f9 Nd;11100-11102 Mn",
   "11103-11126 Lo;11127-1112b Mn;1112c Mc;1112d-11134 Mn;11136-1113f Nd;11140-11143 Po",
   "11144 Lo;11145-11146 Mc;11147 Lo;11150-11172 Lo;11173 Mn;11174-11175 Po;11176 Lo",
   "11180-11181 Mn;11182 Mc;11183-111b2 Lo;111b3-111b5 Mc;111b6-111be Mn;111bf-111c0 Mc",
   "111c1-111c4 Lo;111c5-111c8 Po;111c9-111cc Mn;111cd Po;111ce Mc;111cf Mn;111d0-111d9 Nd",
   "111da Lo;111db Po;111dc Lo;111dd-111df Po;111e1-111f4 No;11200-11211 Lo;11213-1122b Lo",
   "1122c-1122e Mc;1122f-11231 Mn;11232-11233 Mc;11234 Mn;11235 Mc;11236-11237 Mn",
   "11238-1123d Po;1123e Mn;1123f-11240 Lo;11241 Mn;11280-11286 Lo;11288 Lo;1128a-1128d Lo",
   "1128f-1129d Lo;1129f-112a8 Lo;112a9 Po;112b0-112de Lo;112df Mn;112e0-112e2 Mc",
   "112e3-112ea Mn;112f0-112f9 Nd;11300-11301 Mn;11302-11303 Mc;11305-1130c Lo;1130f-11310 Lo",
   "11313-11328 Lo;1132a-11330 Lo;11332-11333 Lo;11335-11339 Lo;1133b-1133c Mn;1133d Lo",
   "1133e-1133f Mc;11340 Mn;11341-11344 Mc;11347-11348 Mc;1134b-1134d Mc;11350 Lo;11357 Mc",
   "1135d-11361 Lo;11362-11363 Mc;11366-1136c Mn;11370-11374 Mn;11400-11434 Lo;11435-11437 Mc",
   "11438-1143f Mn;11440-11441 Mc;11442-11444 Mn;11445 Mc;11446 Mn;11447-1144a Lo",
   "1144b-1144f Po;11450-11459 Nd;1145a-1145b Po;1145d Po;1145e Mn;1145f-11461 Lo",
   "11480-114af Lo;114b0-114b2 Mc;114b3-114b8 Mn;114b9 Mc;114ba Mn;114bb-114be Mc",
   "114bf-114c0 Mn;114c1 Mc;114c2-114c3 Mn;114c4-114c5 Lo;114c6 Po;114c7 Lo;114d0-114d9 Nd",
   "11580-115ae Lo;115af-115b1 Mc;115b2-115b5 Mn;115b8-115bb Mc;115bc-115bd Mn;115be Mc",
   "115bf-115c0 Mn;115c1-115d7 Po;115d8-115db Lo;115dc-115dd Mn;11600-1162f Lo;11630-11632 Mc",
   "11633-1163a Mn;1163b-1163c Mc;1163d Mn;1163e Mc;1163f-11640 Mn;11641-11643 Po;11644 Lo",
   "11650-11659 Nd;11660-1166c Po;11680-116aa Lo;116ab Mn;116ac Mc;116ad Mn;116ae-116af Mc",
   "116b0-116b5 Mn;116b6 Mc;116b7 Mn;116b8 Lo;116b9 Po;116c0-116c9 Nd;11700-1171a Lo",
   "1171d-1171f Mn;11720-11721 Mc;11722-11725 Mn;11726 Mc;11727-1172b Mn;11730-11739 Nd",
   "1173a-1173b No;1173c-1173e Po;1173f So;11740-11746 Lo;11800-1182b Lo;1182c-1182e Mc",
   "1182f-11837 Mn;11838 Mc;11839-1183a Mn;1183b Po;118a0-118bf Lu;118c0-118df Ll",
   "118e0-118e9 Nd;118ea-118f2 No;118ff-11906 Lo;11909 Lo;1190c-11913 Lo;11915-11916 Lo",
   "11918-1192f Lo;11930-11935 Mc;11937-11938 Mc;1193b-1193c Mn;1193d Mc;1193e Mn;1193f Lo",
   "11940 Mc;11941 Lo;11942 Mc;11943 Mn;11944-11946 Po;11950-11959 Nd;119a0-119a7 Lo",
   "119aa-119d0 Lo;119d1-119d3 Mc;119d4-119d7 Mn;119da-119db Mn;119dc-119df Mc;119e0 Mn",
   "119e1 Lo;119e2 Po;119e3 Lo;119e4 Mc;11a00 Lo;11a01-11a0a Mn;11a0b-11a32 Lo;11a33-11a38 Mn",
   "11a39 Mc;11a3a Lo;11a3b-11a3e Mn;11a3f-11a46 Po;11a47 Mn;11a50 Lo;11a51-11a56 Mn",
   "11a57-11a58 Mc;11a59-11a5b Mn;11a5c-11a89 Lo;11a8a-11a96 Mn;11a97 Mc;11a98-11a99 Mn",
   "11a9a-11a9c Po;11a9d Lo;11a9e-11aa2 Po;11ab0-11af8 Lo;11b00-11b09 Po;11c00-11c08 Lo",
   "11c0a-11c2e Lo;11c2f Mc;11c30-11c36 Mn;11c38-11c3d Mn;11c3e Mc;11c3f Mn;11c40 Lo",
   "11c41-11c45 Po;11c50-11c59 Nd;11c5a-11c6c No;11c70-11c71 Po;11c72-11c8f Lo;11c92-11ca7 Mn",
   "11ca9 Mc;11caa-11cb0 Mn;11cb1 Mc;11cb2-11cb3 Mn;11cb4 Mc;11cb5-11cb6 Mn;11d00-11d06 Lo",
   "11d08-11d09 Lo;11d0b-11d30 Lo;11d31-11d36 Mn;11d3a Mn;11d3c-11d3d Mn;11d3f-11d45 Mn",
   "11d46 Lo;11d47 Mn;11d50-11d59 Nd;11d60-11d65 Lo;11d67-11d68 Lo;11d6a-11d89 Lo",
   "11d8a-11d8e Mc;11d90-11d91 Mn;11d93-11d94 Mc;11d95 Mn;11d96 Mc;11d97 Mn;11d98 Lo",
   "11da0-11da9 Nd;11ee0-11ef2 Lo;11ef3-11ef4 Mn;11ef5-11ef6 Mc;11ef7-11ef8 Po;11f00-11f01 Mn",
   "11f02 Lo;11f03 Mc;11f04-11f10 Lo;11f12-11f33 Lo;11f34-11f35 Mc;11f36-11f3a Mn",
   "11f3e-11f3f Mc;11f40 Mn;11f41 Mc;11f42 Mn;11f43-11f4f Po;11f50-11f59 Nd;11fb0 Lo",
   "11fc0-11fd4 No;11fd5-11fdc So;11fdd-11fe0 Sc;11fe1-11ff1 So;11fff Po;12000-12399 Lo",
   "12400-1246e Nl;12470-12474 Po;12480-12543 Lo;12f90-12ff0 Lo;12ff1-12ff2 Po;13000-1342f Lo",
   "13430-1343f Cf;13440 Mn;13441-13446 Lo;13447-13455 Mn;14400-14646 Lo;16800-16a38 Lo",
   "16a40-16a5e Lo;16a60-16a69 Nd;16a6e-16a6f Po;16a70-16abe Lo;16ac0-16ac9 Nd;16ad0-16aed Lo",
   "16af0-16af4 Mn;16af5 Po;16b00-16b2f Lo;16b30-16b36 Mn;16b37-16b3b Po;16b3c-16b3f So",
   "16b40-16b43 Lm;16b44 Po;16b45 So;16b50-16b59 Nd;16b5b-16b61 No;16b63-16b77 Lo",
   "16b7d-16b8f Lo;16e40-16e5f Lu;16e60-16e7f Ll;16e80-16e96 No;16e97-16e9a Po;16f00-16f4a Lo",
   "16f4f Mn;16f50 Lo;16f51-16f87 Mc;16f8f-16f92 Mn;16f93-16f9f Lm;16fe0-16fe1 Lm;16fe2 Po",
   "16fe3 Lm;16fe4 Mn;16ff0-16ff1 Mc;17000-187f7 Lo;18800-18cd5 Lo;18d00-18d08 Lo",
   "1aff0-1aff3 Lm;1aff5-1affb Lm;1affd-1affe Lm;1b000-1b122 Lo;1b132 Lo;1b150-1b152 Lo",
   "1b155 Lo;1b164-1b167 Lo;1b170-1b2fb Lo;1bc00-1bc6a Lo;1bc70-1bc7c Lo;1bc80-1bc88 Lo",
   "1bc90-1bc99 Lo;1bc9c So;1bc9d-1bc9e Mn;1bc9f Po;1bca0-1bca3 Cf;1cf00-1cf2d Mn",
   "1cf30-1cf46 Mn;1cf50-1cfc3 So;1d000-1d0f5 So;1d100-1d126 So;1d129-1d164 So;1d165-1d166 Mc",
   "1d167-1d169 Mn;1d16a-1d16c So;1d16d-1d172 Mc;1d173-1d17a Cf;1d17b-1d182 Mn;1d183-1d184 So",
   "1d185-1d18b Mn;1d18c-1d1a9 So;1d1aa-1d1ad Mn;1d1ae-1d1ea So;1d200-1d241 So;1d242-1d244 Mn",
   "1d245 So;1d2c0-1d2d3 No;1d2e0-1d2f3 No;1d300-1d356 So;1d360-1d378 No;1d400-1d419 Lu",
   "1d41a-1d433 Ll;1d434-1d44d Lu;1d44e-1d454 Ll;1d456-1d467 Ll;1d468-1d481 Lu;1d482-1d49b Ll",
   "1d49c Lu;1d49e-1d49f Lu;1d4a2 Lu;1d4a5-1d4a6 Lu;1d4a9-1d4ac Lu;1d4ae-1d4b5 Lu",
   "1d4b6-1d4b9 Ll;1d4bb Ll;1d4bd-1d4c3 Ll;1d4c5-1d4cf Ll;1d4d0-1d4e9 Lu;1d4ea-1d503 Ll",
   "1d504-1d505 Lu;1d507-1d50a Lu;1d50d-1d514 Lu;1d516-1d51c Lu;1d51e-1d537 Ll;1d538-1d539 Lu",
   "1d53b-1d53e Lu;1d540-1d544 Lu;1d546 Lu;1d54a-1d550 Lu;1d552-1d56b Ll;1d56c-1d585 Lu",
   "1d586-1d59f Ll;1d5a0-1d5b9 Lu;1d5ba-1d5d3 Ll;1d5d4-1d5ed Lu;1d5ee-1d607 Ll;1d608-1d621 Lu",
   "1d622-1d63b Ll;1d63c-1d655 Lu;1d656-1d66f Ll;1d670-1d689 Lu;1d68a-1d6a5 Ll;1d6a8-1d6c0 Lu",
   "1d6c1 Sm;1d6c2-1d6da Ll;1d6db Sm;1d6dc-1d6e1 Ll;1d6e2-1d6fa Lu;1d6fb Sm;1d6fc-1d714 Ll",
   "1d715 Sm;1d716-1d71b Ll;1d71c-1d734 Lu;1d735 Sm;1d736-1d74e Ll;1d74f Sm;1d750-1d755 Ll",
   "1d756-1d76e Lu;1d76f Sm;1d770-1d788 Ll;1d789 Sm;1d78a-1d78f Ll;1d790-1d7a8 Lu;1d7a9 Sm",
   "1d7aa-1d7c2 Ll;1d7c3 Sm;1d7c4-1d7c9 Ll;1d7ca Lu;1d7cb Ll;1d7ce-1d7ff Nd;1d800-1d9ff So",
   "1da00-1da36 Mn;1da37-1da3a So;1da3b-1da6c Mn;1da6d-1da74 So;1da75 Mn;1da76-1da83 So",
   "1da84 Mn;1da85-1da86 So;1da87-1da8b Po;1da9b-1da9f Mn;1daa1-1daaf Mn;1df00-1df09 Ll",
   "1df0a Lo;1df0b-1df1e Ll;1df25-1df2a Ll;1e000-1e006 Mn;1e008-1e018 Mn;1e01b-1e021 Mn",
   "1e023-1e024 Mn;1e026-1e02a Mn;1e030-1e06d Lm;1e08f Mn;1e100-1e12c Lo;1e130-1e136 Mn",
   "1e137-1e13d Lm;1e140-1e149 Nd;1e14e Lo;1e14f So;1e290-1e2ad Lo;1e2ae Mn;1e2c0-1e2eb Lo",
   "1e2ec-1e2ef Mn;1e2f0-1e2f9 Nd;1e2ff Sc;1e4d0-1e4ea Lo;1e4eb Lm;1e4ec-1e4ef Mn",
   "1e4f0-1e4f9 Nd;1e7e0-1e7e6 Lo;1e7e8-1e7eb Lo;1e7ed-1e7ee Lo;1e7f0-1e7fe Lo;1e800-1e8c4 Lo",
   "1e8c7-1e8cf No;1e8d0-1e8d6 Mn;1e900-1e921 Lu;1e922-1e943 Ll;1e944-1e94a Mn;1e94b Lm",
   "1e950-1e959 Nd;1e95e-1e95f Po;1ec71-1ecab No;1ecac So;1ecad-1ecaf No;1ecb0 Sc",
   "1ecb1-1ecb4 No;1ed01-1ed2d No;1ed2e So;1ed2f-1ed3d No;1ee00-1ee03 Lo;1ee05-1ee1f Lo",
   "1ee21-1ee22 Lo;1ee24 Lo;1ee27 Lo;1ee29-1ee32 Lo;1ee34-1ee37 Lo;1ee39 Lo;1ee3b Lo;1ee42 Lo",
   "1ee47 Lo;1ee49 Lo;1ee4b Lo;1ee4d-1ee4f Lo;1ee51-1ee52 Lo;1ee54 Lo;1ee57 Lo;1ee59 Lo",
   "1ee5b Lo;1ee5d Lo;1ee5f Lo;1ee61-1ee62 Lo;1ee64 Lo;1ee67-1ee6a Lo;1ee6c-1ee72 Lo",
   "1ee74-1ee77 Lo;1ee79-1ee7c Lo;1ee7e Lo;1ee80-1ee89 Lo;1ee8b-1ee9b Lo;1eea1-1eea3 Lo",
   "1eea5-1eea9 Lo;1eeab-1eebb Lo;1eef0-1eef1 Sm;1f000-1f02b So;1f030-1f093 So;1f0a0-1f0ae So",
   "1f0b1-1f0bf So;1f0c1-1f0cf So;1f0d1-1f0f5 So;1f100-1f10c No;1f10d-1f1ad So;1f1e6-1f202 So",
   "1f210-1f23b So;1f240-1f248 So;1f250-1f251 So;1f260-1f265 So;1f300-1f3fa So;1f3fb-1f3ff Sk",
   "1f400-1f6d7 So;1f6dc-1f6ec So;1f6f0-1f6fc So;1f700-1f776 So;1f77b-1f7d9 So;1f7e0-1f7eb So",
   "1f7f0 So;1f800-1f80b So;1f810-1f847 So;1f850-1f859 So;1f860-1f887 So;1f890-1f8ad So",
   "1f8b0-1f8b1 So;1f900-1fa53 So;1fa60-1fa6d So;1fa70-1fa7c So;1fa80-1fa88 So;1fa90-1fabd So",
   "1fabf-1fac5 So;1face-1fadb So;1fae0-1fae8 So;1faf0-1faf8 So;1fb00-1fb92 So;1fb94-1fbca So",
   "1fbf0-1fbf9 Nd;20000-2a6df Lo;2a700-2b739 Lo;2b740-2b81d Lo;2b820-2cea1 Lo;2ceb0-2ebe0 Lo",
   "2f800-2fa1d Lo;30000-3134a Lo;31350-323af Lo;e0001 Cf;e0020-e007f Cf;e0100-e01ef Mn",
   "f0000-ffffd Co;100000-10fffd Co"]

/-- Every code point of a script with the script's name. -/
def scriptLines : List String :=
  ["0-40 Common;41-5a Latin;5b-60 Common;61-7a Latin;7b-a9 Common;aa Latin;ab-b9 Common",
   "ba Latin;bb-bf Common;c0-d6 Latin;d7 Common;d8-f6 Latin;f7 Common;f8-2b8 Latin",
   "2b9-2df Common;2e0-2e4 Latin;2e5-2e9 Common;2ea-2eb Bopomofo;2ec-2ff Common",
   "300-36f Inherited;370-373 Greek;374 Common;375-377 Greek;37a-37d Greek;37e Common;37f Greek",
   "384 Greek;385 Common;386 Greek;387 Common;388-38a Greek;38c Greek;38e-3a1 Greek",
   "3a3-3e1 Greek;3e2-3ef Coptic;3f0-3ff Greek;400-484 Cyrillic;485-486 Inherited",
   "487-52f Cyrillic;531-556 Armenian;559-58a Armenian;58d-58f Armenian;591-5c7 Hebrew",
   "5d0-5ea Hebrew;5ef-5f4 Hebrew;600-604 Arabic;605 Common;606-60b Arabic;60c Common",
   "60d-61a Arabic;61b Common;61c-61e Arabic;61f Common;620-63f Arabic;640 Common",
   "641-64a Arabic;64b-655 Inherited;656-66f Arabic;670 Inherited;671-6dc Arabic;6dd Common",
   "6de-6ff Arabic;700-70d Syriac;70f-74a Syriac;74d-74f Syriac;750-77f Arabic;780-7b1 Thaana",
   "7c0-7fa Nko;7fd-7ff Nko;800-82d Samaritan;830-83e Samaritan;840-85b Mandaic;85e Mandaic",
   "860-86a Syriac;870-88e Arabic;890-891 Arabic;898-8e1 Arabic;8e2 Common;8e3-8ff Arabic",
   "900-950 Devanagari;951-954 Inherited;955-963 Devanagari;964-965 Common;966-97f Devanagari",
   "980-983 Bengali;985-98c Bengali;98f-990 Bengali;993-9a8 Bengali;9aa-9b0 Bengali;9b2 Bengali",
   "9b6-9b9 Bengali;9bc-9c4 Bengali;9c7-9c8 Bengali;9cb-9ce Bengali;9d7 Bengali;9dc-9dd Bengali",
   "9df-9e3 Bengali;9e6-9fe Bengali;a01-a03 Gurmukhi;a05-a0a Gurmukhi;a0f-a10 Gurmukhi",
   "a13-a28 Gurmukhi;a2a-a30 Gurmukhi;a32-a33 Gurmukhi;a35-a36 Gurmukhi;a38-a39 Gurmukhi",
   "a3c Gurmukhi;a3e-a42 Gurmukhi;a47-a48 Gurmukhi;a4b-a4d Gurmukhi;a51 Gurmukhi",
   "a59-a5c Gurmukhi;a5e Gurmukhi;a66-a76 Gurmukhi;a81-a83 Gujarati;a85-a8d Gujarati",
   "a8f-a91 Gujarati;a93-aa8 Gujarati;aaa-ab0 Gujarati;ab2-ab3 Gujarati;ab5-ab9 Gujarati",
   "abc-ac5 Gujarati;ac7-ac9 Gujarati;acb-acd Gujarati;ad0 Gujarati;ae0-ae3 Gujarati",
   "ae6-af1 Gujarati;af9-aff Gujarati;b01-b03 Oriya;b05-b0c Oriya;b0f-b10 Oriya;b13-b28 Oriya",
   "b2a-b30 Oriya;b32-b33 Oriya;b35-b39 Oriya;b3c-b44 Oriya;b47-b48 Oriya;b4b-b4d Oriya",
   "b55-b57 Oriya;b5c-b5d Oriya;b5f-b63 Oriya;b66-b77 Oriya;b82-b83 Tamil;b85-b8a Tamil",
   "b8e-b90 Tamil;b92-b95 Tamil;b99-b9a Tamil;b9c Tamil;b9e-b9f Tamil;ba3-ba4 Tamil",
   "ba8-baa Tamil;bae-bb9 Tamil;bbe-bc2 Tamil;bc6-bc8 Tamil;bca-bcd Tamil;bd0 Tamil;bd7 Tamil",
   "be6-bfa Tamil;c00-c0c Telugu;c0e-c10 Telugu;c12-c28 Telugu;c2a-c39 Telugu;c3c-c44 Telugu",
   "c46-c48 Telugu;c4a-c4d Telugu;c55-c56 Telugu;c58-c5a Telugu;c5d Telugu;c60-c63 Telugu",
   "c66-c6f Telugu;c77-c7f Telugu;c80-c8c Kannada;c8e-c90 Kannada;c92-ca8 Kannada",
   "caa-cb3 Kannada;cb5-cb9 Kannada;cbc-cc4 Kannada;cc6-cc8 Kannada;cca-ccd Kannada",
   "cd5-cd6 Kannada;cdd-cde Kannada;ce0-ce3 Kannada;ce6-cef Kannada;cf1-cf3 Kannada",
   "d00-d0c Malayalam;d0e-d10 Malayalam;d12-d44 Malayalam;d46-d48 Malayalam;d4a-d4f Malayalam",
   "d54-d63 Malayalam;d66-d7f Malayalam;d81-d83 Sinhala;d85-d96 Sinhala;d9a-db1 Sinhala",
   "db3-dbb Sinhala;dbd Sinhala;dc0-dc6 Sinhala;dca Sinhala;dcf-dd4 Sinhala;dd6 Sinhala",
   "dd8-ddf Sinhala;de6-def Sinhala;df2-df4 Sinhala;e01-e3a Thai;e3f Common;e40-e5b Thai",
   "e81-e82 Lao;e84 Lao;e86-e8a Lao;e8c-ea3 Lao;ea5 Lao;ea7-ebd Lao;ec0-ec4 Lao;ec6 Lao",
   "ec8-ece Lao;ed0-ed9 Lao;edc-edf Lao;f00-f47 Tibetan;f49-f6c Tibetan;f71-f97 Tibetan",
   "f99-fbc Tibetan;fbe-fcc Tibetan;fce-fd4 Tibetan;fd5-fd8 Common;fd9-fda Tibetan",
   "1000-109f Myanmar;10a0-10c5 Georgian;10c7 Georgian;10cd Georgian;10d0-10fa Georgian",
   "10fb Common;10fc-10ff Georgian;1100-11ff Hangul;1200-1248 Ethiopic;124a-124d Ethiopic",
   "1250-1256 Ethiopic;1258 Ethiopic;125a-125d Ethiopic;1260-1288 Ethiopic;128a-128d Ethiopic",
   "1290-12b0 Ethiopic;12b2-12b5 Ethiopic;12b8-12be Ethiopic;12c0 Ethiopic;12c2-12c5 Ethiopic",
   "12c8-12d6 Ethiopic;12d8-1310 Ethiopic;1312-1315 Ethiopic;1318-135a Ethiopic",
   "135d-137c Ethiopic;1380-1399 Ethiopic;13a0-13f5 Cherokee;13f8-13fd Cherokee",
   "1400-167f Canadian_Aboriginal;1680-169c Ogham;16a0-16ea Runic;16eb-16ed Common",
   "16ee-16f8 Runic;1700-1715 Tagalog;171f Tagalog;1720-1734 Hanunoo;1735-1736 Common",
   "1740-1753 Buhid;1760-176c Tagbanwa;176e-1770 Tagbanwa;1772-1773 Tagbanwa;1780-17dd Khmer",
   "17e0-17e9 Khmer;17f0-17f9 Khmer;1800-1801 Mongolian;1802-1803 Common;1804 Mongolian",
   "1805 Common;1806-1819 Mongolian;1820-1878 Mongolian;1880-18aa Mongolian",
   "18b0-18f5 Canadian_Aboriginal;1900-191e Limbu;1920-192b Limbu;1930-193b Limbu;1940 Limbu",
   "1944-194f Limbu;1950-196d Tai_Le;1970-1974 Tai_Le;1980-19ab New_Tai_Lue",
   "19b0-19c9 New_Tai_Lue;19d0-19da New_Tai_Lue;19de-19df New_Tai_Lue;19e0-19ff Khmer",
   "1a00-1a1b Buginese;1a1e-1a1f Buginese;1a20-1a5e Tai_Tham;1a60-1a7c Tai_Tham",
   "1a7f-1a89 Tai_Tham;1a90-1a99 Tai_Tham;1aa0-1aad Tai_Tham;1ab0-1ace Inherited",
   "1b00-1b4c Balinese;1b50-1b7e Balinese;1b80-1bbf Sundanese;1bc0-1bf3 Batak;1bfc-1bff Batak",
   "1c00-1c37 Lepcha;1c3b-1c49 Lepcha;1c4d-1c4f Lepcha;1c50-1c7f Ol_Chiki;1c80-1c88 Cyrillic",
   "1c90-1cba Georgian;1cbd-1cbf Georgian;1cc0-1cc7 Sundanese;1cd0-1cd2 Inherited;1cd3 Common",
   "1cd4-1ce0 Inherited;1ce1 Common;1ce2-1ce8 Inherited;1ce9-1cec Common;1ced Inherited",
   "1cee-1cf3 Common;1cf4 Inherited;1cf5-1cf7 Common;1cf8-1cf9 Inherited;1cfa Common",
   "1d00-1d25 Latin;1d26-1d2a Greek;1d2b Cyrillic;1d2c-1d5c Latin;1d5d-1d61 Greek",
   "1d62-1d65 Latin;1d66-1d6a Greek;1d6b-1d77 Latin;1d78 Cyrillic;1d79-1dbe Latin;1dbf Greek",
   "1dc0-1dff Inherited;1e00-1eff Latin;1f00-1f15 Greek;1f18-1f1d Greek;1f20-1f45 Greek",
   "1f48-1f4d Greek;1f50-1f57 Greek;1f59 Greek;1f5b Greek;1f5d Greek;1f5f-1f7d Greek",
   "1f80-1fb4 Greek;1fb6-1fc4 Greek;1fc6-1fd3 Greek;1fd6-1fdb Greek;1fdd-1fef Greek",
   "1ff2-1ff4 Greek;1ff6-1ffe Greek;2000-200b Common;200c-200d Inherited;200e-2064 Common",
   "2066-2070 Common;2071 Latin;2074-207e Common;207f Latin;2080-208e Common;2090-209c Latin",
   "20a0-20c0 Common;20d0-20f0 Inherited;2100-2125 Common;2126 Greek;2127-2129 Common",
   "212a-212b Latin;212c-2131 Common;2132 Latin;2133-214d Common;214e Latin;214f-215f Common",
   "2160-2188 Latin;2189-218b Common;2190-2426 Common;2440-244a Common;2460-27ff Common",
   "2800-28ff Braille;2900-2b73 Common;2b76-2b95 Common;2b97-2bff Common;2c00-2c5f Glagolitic",
   "2c60-2c7f Latin;2c80-2cf3 Coptic;2cf9-2cff Coptic;2d00-2d25 Georgian;2d27 Georgian",
   "2d2d Georgian;2d30-2d67 Tifinagh;2d6f-2d70 Tifinagh;2d7f Tifinagh;2d80-2d96 Ethiopic",
   "2da0-2da6 Ethiopic;2da8-2dae Ethiopic;2db0-2db6 Ethiopic;2db8-2dbe Ethiopic",
   "2dc0-2dc6 Ethiopic;2dc8-2dce Ethiopic;2dd0-2dd6 Ethiopic;2dd8-2dde Ethiopic",
   "2de0-2dff Cyrillic;2e00-2e5d Common;2e80-2e99 Han;2e9b-2ef3 Han;2f00-2fd5 Han",
   "2ff0-2ffb Common;3000-3004 Common;3005 Han;3006 Common;3007 Han;3008-3020 Common",
   "3021-3029 Han;302a-302d Inherited;302e-302f Hangul;3030-3037 Common;3038-303b Han",
   "303c-303f Common;3041-3096 Hiragana;3099-309a Inherited;309b-309c Common;309d-309f Hiragana",
   "30a0 Common;30a1-30fa Katakana;30fb-30fc Common;30fd-30ff Katakana;3105-312f Bopomofo",
   "3131-318e Hangul;3190-319f Common;31a0-31bf Bopomofo;31c0-31e3 Common;31f0-31ff Katakana",
   "3200-321e Hangul;3220-325f Common;3260-327e Hangul;327f-32cf Common;32d0-32fe Katakana",
   "32ff Common;3300-3357 Katakana;3358-33ff Common;3400-4dbf Han;4dc0-4dff Common",
   "4e00-9fff Han;a000-a48c Yi;a490-a4c6 Yi;a4d0-a4ff Lisu;a500-a62b Vai;a640-a69f Cyrillic",
   "a6a0-a6f7 Bamum;a700-a721 Common;a722-a787 Latin;a788-a78a Common;a78b-a7ca Latin",
   "a7d0-a7d1 Latin;a7d3 Latin;a7d5-a7d9 Latin;a7f2-a7ff Latin;a800-a82c Syloti_Nagri",
   "a830-a839 Common;a840-a877 Phags_Pa;a880-a8c5 Saurashtra;a8ce-a8d9 Saurashtra",
   "a8e0-a8ff Devanagari;a900-a92d Kayah_Li;a92e Common;a92f Kayah_Li;a930-a953 Rejang",
   "a95f Rejang;a960-a97c Hangul;a980-a9cd Javanese;a9cf Common;a9d0-a9d9 Javanese",
   "a9de-a9df Javanese;a9e0-a9fe Myanmar;aa00-aa36 Cham;aa40-aa4d Cham;aa50-aa59 Cham",
   "aa5c-aa5f Cham;aa60-aa7f Myanmar;aa80-aac2 Tai_Viet;aadb-aadf Tai_Viet",
   "aae0-aaf6 Meetei_Mayek;ab01-ab06 Ethiopic;ab09-ab0e Ethiopic;ab11-ab16 Ethiopic",
   "ab20-ab26 Ethiopic;ab28-ab2e Ethiopic;ab30-ab5a Latin;ab5b Common;ab5c-ab64 Latin",
   "ab65 Greek;ab66-ab69 Latin;ab6a-ab6b Common;ab70-abbf Cherokee;abc0-abed Meetei_Mayek",
   "abf0-abf9 Meetei_Mayek;ac00-d7a3 Hangul;d7b0-d7c6 Hangul;d7cb-d7fb Hangul;f900-fa6d Han",
   "fa70-fad9 Han;fb00-fb06 Latin;fb13-fb17 Armenian;fb1d-fb36 Hebrew;fb38-fb3c Hebrew",
   "fb3e Hebrew;fb40-fb41 Hebrew;fb43-fb44 Hebrew;fb46-fb4f Hebrew;fb50-fbc2 Arabic",
   "fbd3-fd3d Arabic;fd3e-fd3f Common;fd40-fd8f Arabic;fd92-fdc7 Arabic;fdcf Arabic",
   "fdf0-fdff Arabic;fe00-fe0f Inherited;fe10-fe19 Common;fe20-fe2d Inherited",
   "fe2e-fe2f Cyrillic;fe30-fe52 Common;fe54-fe66 Common;fe68-fe6b Common;fe70-fe74 Arabic",
   "fe76-fefc Arabic;feff Common;ff01-ff20 Common;ff21-ff3a Latin;ff3b-ff40 Common",
   "ff41-ff5a Latin;ff5b-ff65 Common;ff66-ff6f Katakana;ff70 Common;ff71-ff9d Katakana",
   "ff9e-ff9f Common;ffa0-ffbe Hangul;ffc2-ffc7 Hangul;ffca-ffcf Hangul;ffd2-ffd7 Hangul",
   "ffda-ffdc Hangul;ffe0-ffe6 Common;ffe8-ffee Common;fff9-fffd Common;10000-1000b Linear_B",
   "1000d-10026 Linear_B;10028-1003a Linear_B;1003c-1003d Linear_B;1003f-1004d Linear_B",
   "10050-1005d Linear_B;10080-100fa Linear_B;10100-10102 Common;10107-10133 Common",
   "10137-1013f Common;10140-1018e Greek;10190-1019c Common;101a0 Greek;101d0-101fc Common",
   "101fd Inherited;10280-1029c Lycian;102a0-102d0 Carian;102e0 Inherited;102e1-102fb Common",
   "10300-10323 Old_Italic;1032d-1032f Old_Italic;10330-1034a Gothic;10350-1037a Old_Permic",
   "10380-1039d Ugaritic;1039f Ugaritic;103a0-103c3 Old_Persian;103c8-103d5 Old_Persian",
   "10400-1044f Deseret;10450-1047f Shavian;10480-1049d Osmanya;104a0-104a9 Osmanya",
   "104b0-104d3 Osage;104d8-104fb Osage;10500-10527 Elbasan;10530-10563 Caucasian_Albanian",
   "1056f Caucasian_Albanian;10570-1057a Vithkuqi;1057c-1058a Vithkuqi;1058c-10592 Vithkuqi",
   "10594-10595 Vithkuqi;10597-105a1 Vithkuqi;105a3-105b1 Vithkuqi;105b3-105b9 Vithkuqi",
   "105bb-105bc Vithkuqi;10600-10736 Linear_A;10740-10755 Linear_A;10760-10767 Linear_A",
   "10780-10785 Latin;10787-107b0 Latin;107b2-107ba Latin;10800-10805 Cypriot;10808 Cypriot",
   "1080a-10835 Cypriot;10837-10838 Cypriot;1083c Cypriot;1083f Cypriot",
   "10840-10855 Imperial_Aramaic;10857-1085f Imperial_Aramaic;10860-1087f Palmyrene",
   "10880-1089e Nabataean;108a7-108af Nabataean;108e0-108f2 Hatran;108f4-108f5 Hatran",
   "108fb-108ff Hatran;10900-1091b Phoenician;1091f Phoenician;10920-10939 Lydian;1093f Lydian",
   "10980-1099f Meroitic_Hieroglyphs;109a0-109b7 Meroitic_Cursive;109bc-109cf Meroitic_Cursive",
   "109d2-109ff Meroitic_Cursive;10a00-10a03 Kharoshthi;10a05-10a06 Kharoshthi",
   "10a0c-10a13 Kharoshthi;10a15-10a17 Kharoshthi;10a19-10a35 Kharoshthi;10a38-10a3a Kharoshthi",
   "10a3f-10a48 Kharoshthi;10a50-10a58 Kharoshthi;10a60-10a7f Old_South_Arabian",
   "10a80-10a9f Old_North_Arabian;10ac0-10ae6 Manichaean;10aeb-10af6 Manichaean",
   "10b00-10b35 Avestan;10b39-10b3f Avestan;10b40-10b55 Inscriptional_Parthian",
   "10b58-10b5f Inscriptional_Parthian;10b60-10b72 Inscriptional_Pahlavi",
   "10b78-10b7f Inscriptional_Pahlavi;10b80-10b91 Psalter_Pahlavi;10b99-10b9c Psalter_Pahlavi",
   "10ba9-10baf Psalter_Pahlavi;10c00-10c48 Old_Turkic;10c80-10cb2 Old_Hungarian",
   "10cc0-10cf2 Old_Hungarian;10cfa-10cff Old_Hungarian;10d00-10d27 Hanifi_Rohingya",
   "10d30-10d39 Hanifi_Rohingya;10e60-10e7e Arabic;10e80-10ea9 Yezidi;10eab-10ead Yezidi",
   "10eb0-10eb1 Yezidi;10efd-10eff Arabic;10f00-10f27 Old_Sogdian;10f30-10f59 Sogdian",
   "10f70-10f89 Old_Uyghur;10fb0-10fcb Chorasmian;10fe0-10ff6 Elymaic;11000-1104d Brahmi",
   "11052-11075 Brahmi;1107f Brahmi;11080-110c2 Kaithi;110cd Kaithi;110d0-110e8 Sora_Sompeng",
   "110f0-110f9 Sora_Sompeng;11100-11134 Chakma;11136-11147 Chakma;11150-11176 Mahajani",
   "11180-111df Sharada;111e1-111f4 Sinhala;11200-11211 Khojki;11213-11241 Khojki",
   "11280-11286 Multani;11288 Multani;1128a-1128d Multani;1128f-1129d Multani",
   "1129f-112a9 Multani;112b0-112ea Khudawadi;112f0-112f9 Khudawadi;11300-11303 Grantha",
   "11305-1130c Grantha;1130f-11310 Grantha;11313-11328 Grantha;1132a-11330 Grantha",
   "11332-11333 Grantha;11335-11339 Grantha;1133b Inherited;1133c-11344 Grantha",
   "11347-11348 Grantha;1134b-1134d Grantha;11350 Grantha;11357 Grantha;1135d-11363 Grantha",
   "11366-1136c Grantha;11370-11374 Grantha;11400-1145b Newa;1145d-11461 Newa",
   "11480-114c7 Tirhuta;114d0-114d9 Tirhuta;11580-115b5 Siddham;115b8-115dd Siddham",
   "11600-11644 Modi;11650-11659 Modi;11660-1166c Mongolian;11680-116b9 Takri;116c0-116c9 Takri",
   "11700-1171a Ahom;1171d-1172b Ahom;11730-11746 Ahom;11800-1183b Dogra",
   "118a0-118f2 Warang_Citi;118ff Warang_Citi;11900-11906 Dives_Akuru;11909 Dives_Akuru",
   "1190c-11913 Dives_Akuru;11915-11916 Dives_Akuru;11918-11935 Dives_Akuru",
   "11937-11938 Dives_Akuru;1193b-11946 Dives_Akuru;11950-11959 Dives_Akuru",
   "119a0-119a7 Nandinagari;119aa-119d7 Nandinagari;119da-119e4 Nandinagari",
   "11a00-11a47 Zanabazar_Square;11a50-11aa2 Soyombo;11ab0-11abf Canadian_Aboriginal",
   "11ac0-11af8 Pau_Cin_Hau;11b00-11b09 Devanagari;11c00-11c08 Bhaiksuki;11c0a-11c36 Bhaiksuki",
   "11c38-11c45 Bhaiksuki;11c50-11c6c Bhaiksuki;11c70-11c8f Marchen;11c92-11ca7 Marchen",
   "11ca9-11cb6 Marchen;11d00-11d06 Masaram_Gondi;11d08-11d09 Masaram_Gondi",
   "11d0b-11d36 Masaram_Gondi;11d3a Masaram_Gondi;11d3c-11d3d Masaram_Gondi",
   "11d3f-11d47 Masaram_Gondi;11d50-11d59 Masaram_Gondi;11d60-11d65 Gunjala_Gondi",
   "11d67-11d68 Gunjala_Gondi;11d6a-11d8e Gunjala_Gondi;11d90-11d91 Gunjala_Gondi",
   "11d93-11d98 Gunjala_Gondi;11da0-11da9 Gunjala_Gondi;11ee0-11ef8 Makasar;11f00-11f10 Kawi",
   "11f12-11f3a Kawi;11f3e-11f59 Kawi;11fb0 Lisu;11fc0-11ff1 Tamil;11fff Tamil",
   "12000-12399 Cuneiform;12400-1246e Cuneiform;12470-12474 Cuneiform;12480-12543 Cuneiform",
   "12f90-12ff2 Cypro_Minoan;13000-13455 Egyptian_Hieroglyphs;14400-14646 Anatolian_Hieroglyphs",
   "16800-16a38 Bamum;16a40-16a5e Mro;16a60-16a69 Mro;16a6e-16a6f Mro;16a70-16abe Tangsa",
   "16ac0-16ac9 Tangsa;16ad0-16aed Bassa_Vah;16af0-16af5 Bassa_Vah;16b00-16b45 Pahawh_Hmong",
   "16b50-16b59 Pahawh_Hmong;16b5b-16b61 Pahawh_Hmong;16b63-16b77 Pahawh_Hmong",
   "16b7d-16b8f Pahawh_Hmong;16e40-16e9a Medefaidrin;16f00-16f4a Miao;16f4f-16f87 Miao",
   "16f8f-16f9f Miao;16fe0 Tangut;16fe1 Nushu;16fe2-16fe3 Han;16fe4 Khitan_Small_Script",
   "16ff0-16ff1 Han;17000-187f7 Tangut;18800-18aff Tangut;18b00-18cd5 Khitan_Small_Script",
   "18d00-18d08 Tangut;1aff0-1aff3 Katakana;1aff5-1affb Katakana;1affd-1affe Katakana",
   "1b000 Katakana;1b001-1b11f Hiragana;1b120-1b122 Katakana;1b132 Hiragana",
   "1b150-1b152 Hiragana;1b155 Katakana;1b164-1b167 Katakana;1b170-1b2fb Nushu",
   "1bc00-1bc6a Duployan;1bc70-1bc7c Duployan;1bc80-1bc88 Duployan;1bc90-1bc99 Duployan",
   "1bc9c-1bc9f Duployan;1bca0-1bca3 Common;1cf00-1cf2d Inherited;1cf30-1cf46 Inherited",
   "1cf50-1cfc3 Common;1d000-1d0f5 Common;1d100-1d126 Common;1d129-1d166 Common",
   "1d167-1d169 Inherited;1d16a-1d17a Common;1d17b-1d182 Inherited;1d183-1d184 Common",
   "1d185-1d18b Inherited;1d18c-1d1a9 Common;1d1aa-1d1ad Inherited;1d1ae-1d1ea Common",
   "1d200-1d245 Greek;1d2c0-1d2d3 Common;1d2e0-1d2f3 Common;1d300-1d356 Common",
   "1d360-1d378 Common;1d400-1d454 Common;1d456-1d49c Common;1d49e-1d49f Common;1d4a2 Common",
   "1d4a5-1d4a6 Common;1d4a9-1d4ac Common;1d4ae-1d4b9 Common;1d4bb Common;1d4bd-1d4c3 Common",
   "1d4c5-1d505 Common;1d507-1d50a Common;1d50d-1d514 Common;1d516-1d51c Common",
   "1d51e-1d539 Common;1d53b-1d53e Common;1d540-1d544 Common;1d546 Common;1d54a-1d550 Common",
   "1d552-1d6a5 Common;1d6a8-1d7cb Common;1d7ce-1d7ff Common;1d800-1da8b SignWriting",
   "1da9b-1da9f SignWriting;1daa1-1daaf SignWriting;1df00-1df1e Latin;1df25-1df2a Latin",
   "1e000-1e006 Glagolitic;1e008-1e018 Glagolitic;1e01b-1e021 Glagolitic;1e023-1e024 Glagolitic",
   "1e026-1e02a Glagolitic;1e030-1e06d Cyrillic;1e08f Cyrillic",
   "1e100-1e12c Nyiakeng_Puachue_Hmong;1e130-1e13d Nyiakeng_Puachue_Hmong",
   "1e140-1e149 Nyiakeng_Puachue_Hmong;1e14e-1e14f Nyiakeng_Puachue_Hmong;1e290-1e2ae Toto",
   "1e2c0-1e2f9 Wancho;1e2ff Wancho;1e4d0-1e4f9 Nag_Mundari;1e7e0-1e7e6 Ethiopic",
   "1e7e8-1e7eb Ethiopic;1e7ed-1e7ee Ethiopic;1e7f0-1e7fe Ethiopic;1e800-1e8c4 Mende_Kikakui",
   "1e8c7-1e8d6 Mende_Kikakui;1e900-1e94b Adlam;1e950-1e959 Adlam;1e95e-1e95f Adlam",
   "1ec71-1ecb4 Common;1ed01-1ed3d Common;1ee00-1ee03 Arabic;1ee05-1ee1f Arabic",
   "1ee21-1ee22 Arabic;1ee24 Arabic;1ee27 Arabic;1ee29-1ee32 Arabic;1ee34-1ee37 Arabic",
   "1ee39 Arabic;1ee3b Arabic;1ee42 Arabic;1ee47 Arabic;1ee49 Arabic;1ee4b Arabic",
   "1ee4d-1ee4f Arabic;1ee51-1ee52 Arabic;1ee54 Arabic;1ee57 Arabic;1ee59 Arabic;1ee5b Arabic",
   "1ee5d Arabic;1ee5f Arabic;1ee61-1ee62 Arabic;1ee64 Arabic;1ee67-1ee6a Arabic",
   "1ee6c-1ee72 Arabic;1ee74-1ee77 Arabic;1ee79-1ee7c Arabic;1ee7e Arabic;1ee80-1ee89 Arabic",
   "1ee8b-1ee9b Arabic;1eea1-1eea3 Arabic;1eea5-1eea9 Arabic;1eeab-1eebb Arabic",
   "1eef0-1eef1 Arabic;1f000-1f02b Common;1f030-1f093 Common;1f0a0-1f0ae Common",
   "1f0b1-1f0bf Common;1f0c1-1f0cf Common;1f0d1-1f0f5 Common;1f100-1f1ad Common",
   "1f1e6-1f1ff Common;1f200 Hiragana;1f201-1f202 Common;1f210-1f23b Common;1f240-1f248 Common",
   "1f250-1f251 Common;1f260-1f265 Common;1f300-1f6d7 Common;1f6dc-1f6ec Common",
   "1f6f0-1f6fc Common;1f700-1f776 Common;1f77b-1f7d9 Common;1f7e0-1f7eb Common;1f7f0 Common",
   "1f800-1f80b Common;1f810-1f847 Common;1f850-1f859 Common;1f860-1f887 Common",
   "1f890-1f8ad Common;1f8b0-1f8b1 Common;1f900-1fa53 Common;1fa60-1fa6d Common",
   "1fa70-1fa7c Common;1fa80-1fa88 Common;1fa90-1fabd Common;1fabf-1fac5 Common",
   "1face-1fadb Common;1fae0-1fae8 Common;1faf0-1faf8 Common;1fb00-1fb92 Common",
   "1fb94-1fbca Common;1fbf0-1fbf9 Common;20000-2a6df Han;2a700-2b739 Han;2b740-2b81d Han",
   "2b820-2cea1 Han;2ceb0-2ebe0 Han;2f800-2fa1d Han;30000-3134a Han;31350-323af Han",
   "e0001 Common;e0020-e007f Common;e0100-e01ef Inherited"]

/-- The classes of characters equal under simple case folding. -/
def foldLines : List String :=
  ["41 61;42 62;43 63;44 64;45 65;46 66;47 67;48 68;49 69;4a 6a;4b 6b 212a;4c 6c;4d 6d;4e 6e",
   "4f 6f;50 70;51 71;52 72;53 73 17f;54 74;55 75;56 76;57 77;58 78;59 79;5a 7a;b5 39c 3bc",
   "c0 e0;c1 e1;c2 e2;c3 e3;c4 e4;c5 e5 212b;c6 e6;c7 e7;c8 e8;c9 e9;ca ea;cb eb;cc ec;cd ed",
   "ce ee;cf ef;d0 f0;d1 f1;d2 f2;d3 f3;d4 f4;d5 f5;d6 f6;d8 f8;d9 f9;da fa;db fb;dc fc;dd fd",
   "de fe;df 1e9e;ff 178;100 101;102 103;104 105;106 107;108 109;10a 10b;10c 10d;10e 10f",
   "110 111;112 113;114 115;116 117;118 119;11a 11b;11c 11d;11e 11f;120 121;122 123;124 125",
   "126 127;128 129;12a 12b;12c 12d;12e 12f;132 133;134 135;136 137;139 13a;13b 13c;13d 13e",
   "13f 140;141 142;143 144;145 146;147 148;14a 14b;14c 14d;14e 14f;150 151;152 153;154 155",
   "156 157;158 159;15a 15b;15c 15d;15e 15f;160 161;162 163;164 165;166 167;168 169;16a 16b",
   "16c 16d;16e 16f;170 171;172 173;174 175;176 177;179 17a;17b 17c;17d 17e;180 243;181 253",
   "182 183;184 185;186 254;187 188;189 256;18a 257;18b 18c;18e 1dd;18f 259;190 25b;191 192",
   "193 260;194 263;195 1f6;196 269;197 268;198 199;19a 23d;19c 26f;19d 272;19e 220;19f 275",
   "1a0 1a1;1a2 1a3;1a4 1a5;1a6 280;1a7 1a8;1a9 283;1ac 1ad;1ae 288;1af 1b0;1b1 28a;1b2 28b",
   "1b3 1b4;1b5 1b6;1b7 292;1b8 1b9;1bc 1bd;1bf 1f7;1c4 1c5 1c6;1c7 1c8 1c9;1ca 1cb 1cc;1cd 1ce",
   "1cf 1d0;1d1 1d2;1d3 1d4;1d5 1d6;1d7 1d8;1d9 1da;1db 1dc;1de 1df;1e0 1e1;1e2 1e3;1e4 1e5",
   "1e6 1e7;1e8 1e9;1ea 1eb;1ec 1ed;1ee 1ef;1f1 1f2 1f3;1f4 1f5;1f8 1f9;1fa 1fb;1fc 1fd;1fe 1ff",
   "200 201;202 203;204 205;206 207;208 209;20a 20b;20c 20d;20e 20f;210 211;212 213;214 215",
   "216 217;218 219;21a 21b;21c 21d;21e 21f;222 223;224 225;226 227;228 229;22a 22b;22c 22d",
   "22e 22f;230 231;232 233;23a 2c65;23b 23c;23e 2c66;23f 2c7e;240 2c7f;241 242;244 289;245 28c",
   "246 247;248 249;24a 24b;24c 24d;24e 24f;250 2c6f;251 2c6d;252 2c70;25c a7ab;261 a7ac",
   "265 a78d;266 a7aa;26a a7ae;26b 2c62;26c a7ad;271 2c6e;27d 2c64;282 a7c5;287 a7b1;29d a7b2",
   "29e a7b0;345 399 3b9 1fbe;370 371;372 373;376 377;37b 3fd;37c 3fe;37d 3ff;37f 3f3;386 3ac",
   "388 3ad;389 3ae;38a 3af;38c 3cc;38e 3cd;38f 3ce;391 3b1;392 3b2 3d0;393 3b3;394 3b4",
   "395 3b5 3f5;396 3b6;397 3b7;398 3b8 3d1 3f4;39a 3ba 3f0;39b 3bb;39d 3bd;39e 3be;39f 3bf",
   "3a0 3c0 3d6;3a1 3c1 3f1;3a3 3c2 3c3;3a4 3c4;3a5 3c5;3a6 3c6 3d5;3a7 3c7;3a8 3c8",
   "3a9 3c9 2126;3aa 3ca;3ab 3cb;3cf 3d7;3d8 3d9;3da 3db;3dc 3dd;3de 3df;3e0 3e1;3e2 3e3",
   "3e4 3e5;3e6 3e7;3e8 3e9;3ea 3eb;3ec 3ed;3ee 3ef;3f2 3f9;3f7 3f8;3fa 3fb;400 450;401 451",
   "402 452;403 453;404 454;405 455;406 456;407 457;408 458;409 459;40a 45a;40b 45b;40c 45c",
   "40d 45d;40e 45e;40f 45f;410 430;411 431;412 432 1c80;413 433;414 434 1c81;415 435;416 436",
   "417 437;418 438;419 439;41a 43a;41b 43b;41c 43c;41d 43d;41e 43e 1c82;41f 43f;420 440",
   "421 441 1c83;422 442 1c84 1c85;423 443;424 444;425 445;426 446;427 447;428 448;429 449",
   "42a 44a 1c86;42b 44b;42c 44c;42d 44d;42e 44e;42f 44f;460 461;462 463 1c87;464 465;466 467",
   "468 469;46a 46b;46c 46d;46e 46f;470 471;472 473;474 475;476 477;478 479;47a 47b;47c 47d",
   "47e 47f;480 481;48a 48b;48c 48d;48e 48f;490 491;492 493;494 495;496 497;498 499;49a 49b",
   "49c 49d;49e 49f;4a0 4a1;4a2 4a3;4a4 4a5;4a6 4a7;4a8 4a9;4aa 4ab;4ac 4ad;4ae 4af;4b0 4b1",
   "4b2 4b3;4b4 4b5;4b6 4b7;4b8 4b9;4ba 4bb;4bc 4bd;4be 4bf;4c0 4cf;4c1 4c2;4c3 4c4;4c5 4c6",
   "4c7 4c8;4c9 4ca;4cb 4cc;4cd 4ce;4d0 4d1;4d2 4d3;4d4 4d5;4d6 4d7;4d8 4d9;4da 4db;4dc 4dd",
   "4de 4df;4e0 4e1;4e2 4e3;4e4 4e5;4e6 4e7;4e8 4e9;4ea 4eb;4ec 4ed;4ee 4ef;4f0 4f1;4f2 4f3",
   "4f4 4f5;4f6 4f7;4f8 4f9;4fa 4fb;4fc 4fd;4fe 4ff;500 501;502 503;504 505;506 507;508 509",
   "50a 50b;50c 50d;50e 50f;510 511;512 513;514 515;516 517;518 519;51a 51b;51c 51d;51e 51f",
   "520 521;522 523;524 525;526 527;528 529;52a 52b;52c 52d;52e 52f;531 561;532 562;533 563",
   "534 564;535 565;536 566;537 567;538 568;539 569;53a 56a;53b 56b;53c 56c;53d 56d;53e 56e",
   "53f 56f;540 570;541 571;542 572;543 573;544 574;545 575;546 576;547 577;548 578;549 579",
   "54a 57a;54b 57b;54c 57c;54d 57d;54e 57e;54f 57f;550 580;551 581;552 582;553 583;554 584",
   "555 585;556 586;10a0 2d00;10a1 2d01;10a2 2d02;10a3 2d03;10a4 2d04;10a5 2d05;10a6 2d06",
   "10a7 2d07;10a8 2d08;10a9 2d09;10aa 2d0a;10ab 2d0b;10ac 2d0c;10ad 2d0d;10ae 2d0e;10af 2d0f",
   "10b0 2d10;10b1 2d11;10b2 2d12;10b3 2d13;10b4 2d14;10b5 2d15;10b6 2d16;10b7 2d17;10b8 2d18",
   "10b9 2d19;10ba 2d1a;10bb 2d1b;10bc 2d1c;10bd 2d1d;10be 2d1e;10bf 2d1f;10c0 2d20;10c1 2d21",
   "10c2 2d22;10c3 2d23;10c4 2d24;10c5 2d25;10c7 2d27;10cd 2d2d;10d0 1c90;10d1 1c91;10d2 1c92",
   "10d3 1c93;10d4 1c94;10d5 1c95;10d6 1c96;10d7 1c97;10d8 1c98;10d9 1c99;10da 1c9a;10db 1c9b",
   "10dc 1c9c;10dd 1c9d;10de 1c9e;10df 1c9f;10e0 1ca0;10e1 1ca1;10e2 1ca2;10e3 1ca3;10e4 1ca4",
   "10e5 1ca5;10e6 1ca6;10e7 1ca7;10e8 1ca8;10e9 1ca9;10ea 1caa;10eb 1cab;10ec 1cac;10ed 1cad",
   "10ee 1cae;10ef 1caf;10f0 1cb0;10f1 1cb1;10f2 1cb2;10f3 1cb3;10f4 1cb4;10f5 1cb5;10f6 1cb6",
   "10f7 1cb7;10f8 1cb8;10f9 1cb9;10fa 1cba;10fd 1cbd;10fe 1cbe;10ff 1cbf;13a0 ab70;13a1 ab71",
   "13a2 ab72;13a3 ab73;13a4 ab74;13a5 ab75;13a6 ab76;13a7 ab77;13a8 ab78;13a9 ab79;13aa ab7a",
   "13ab ab7b;13ac ab7c;13ad ab7d;13ae ab7e;13af ab7f;13b0 ab80;13b1 ab81;13b2 ab82;13b3 ab83",
   "13b4 ab84;13b5 ab85;13b6 ab86;13b7 ab87;13b8 ab88;13b9 ab89;13ba ab8a;13bb ab8b;13bc ab8c",
   "13bd ab8d;13be ab8e;13bf ab8f;13c0 ab90;13c1 ab91;13c2 ab92;13c3 ab93;13c4 ab94;13c5 ab95",
   "13c6 ab96;13c7 ab97;13c8 ab98;13c9 ab99;13ca ab9a;13cb ab9b;13cc ab9c;13cd ab9d;13ce ab9e",
   "13cf ab9f;13d0 aba0;13d1 aba1;13d2 aba2;13d3 aba3;13d4 aba4;13d5 aba5;13d6 aba6;13d7 aba7",
   "13d8 aba8;13d9 aba9;13da abaa;13db abab;13dc abac;13dd abad;13de abae;13df abaf;13e0 abb0",
   "13e1 abb1;13e2 abb2;13e3 abb3;13e4 abb4;13e5 abb5;13e6 abb6;13e7 abb7;13e8 abb8;13e9 abb9",
   "13ea abba;13eb abbb;13ec abbc;13ed abbd;13ee abbe;13ef abbf;13f0 13f8;13f1 13f9;13f2 13fa",
   "13f3 13fb;13f4 13fc;13f5 13fd;1c88 a64a a64b;1d79 a77d;1d7d 2c63;1d8e a7c6;1e00 1e01",
   "1e02 1e03;1e04 1e05;1e06 1e07;1e08 1e09;1e0a 1e0b;1e0c 1e0d;1e0e 1e0f;1e10 1e11;1e12 1e13",
   "1e14 1e15;1e16 1e17;1e18 1e19;1e1a 1e1b;1e1c 1e1d;1e1e 1e1f;1e20 1e21;1e22 1e23;1e24 1e25",
   "1e26 1e27;1e28 1e29;1e2a 1e2b;1e2c 1e2d;1e2e 1e2f;1e30 1e31;1e32 1e33;1e34 1e35;1e36 1e37",
   "1e38 1e39;1e3a 1e3b;1e3c 1e3d;1e3e 1e3f;1e40 1e41;1e42 1e43;1e44 1e45;1e46 1e47;1e48 1e49",
   "1e4a 1e4b;1e4c 1e4d;1e4e 1e4f;1e50 1e51;1e52 1e53;1e54 1e55;1e56 1e57;1e58 1e59;1e5a 1e5b",
   "1e5c 1e5d;1e5e 1e5f;1e60 1e61 1e9b;1e62 1e63;1e64 1e65;1e66 1e67;1e68 1e69;1e6a 1e6b",
   "1e6c 1e6d;1e6e 1e6f;1e70 1e71;1e72 1e73;1e74 1e75;1e76 1e77;1e78 1e79;1e7a 1e7b;1e7c 1e7d",
   "1e7e 1e7f;1e80 1e81;1e82 1e83;1e84 1e85;1e86 1e87;1e88 1e89;1e8a 1e8b;1e8c 1e8d;1e8e 1e8f",
   "1e90 1e91;1e92 1e93;1e94 1e95;1ea0 1ea1;1ea2 1ea3;1ea4 1ea5;1ea6 1ea7;1ea8 1ea9;1eaa 1eab",
   "1eac 1ead;1eae 1eaf;1eb0 1eb1;1eb2 1eb3;1eb4 1eb5;1eb6 1eb7;1eb8 1eb9;1eba 1ebb;1ebc 1ebd",
   "1ebe 1ebf;1ec0 1ec1;1ec2 1ec3;1ec4 1ec5;1ec6 1ec7;1ec8 1ec9;1eca 1ecb;1ecc 1ecd;1ece 1ecf",
   "1ed0 1ed1;1ed2 1ed3;1ed4 1ed5;1ed6 1ed7;1ed8 1ed9;1eda 1edb;1edc 1edd;1ede 1edf;1ee0 1ee1",
   "1ee2 1ee3;1ee4 1ee5;1ee6 1ee7;1ee8 1ee9;1eea 1eeb;1eec 1eed;1eee 1eef;1ef0 1ef1;1ef2 1ef3",
   "1ef4 1ef5;1ef6 1ef7;1ef8 1ef9;1efa 1efb;1efc 1efd;1efe 1eff;1f00 1f08;1f01 1f09;1f02 1f0a",
   "1f03 1f0b;1f04 1f0c;1f05 1f0d;1f06 1f0e;1f07 1f0f;1f10 1f18;1f11 1f19;1f12 1f1a;1f13 1f1b",
   "1f14 1f1c;1f15 1f1d;1f20 1f28;1f21 1f29;1f22 1f2a;1f23 1f2b;1f24 1f2c;1f25 1f2d;1f26 1f2e",
   "1f27 1f2f;1f30 1f38;1f31 1f39;1f32 1f3a;1f33 1f3b;1f34 1f3c;1f35 1f3d;1f36 1f3e;1f37 1f3f",
   "1f40 1f48;1f41 1f49;1f42 1f4a;1f43 1f4b;1f44 1f4c;1f45 1f4d;1f51 1f59;1f53 1f5b;1f55 1f5d",
   "1f57 1f5f;1f60 1f68;1f61 1f69;1f62 1f6a;1f63 1f6b;1f64 1f6c;1f65 1f6d;1f66 1f6e;1f67 1f6f",
   "1f70 1fba;1f71 1fbb;1f72 1fc8;1f73 1fc9;1f74 1fca;1f75 1fcb;1f76 1fda;1f77 1fdb;1f78 1ff8",
   "1f79 1ff9;1f7a 1fea;1f7b 1feb;1f7c 1ffa;1f7d 1ffb;1f80 1f88;1f81 1f89;1f82 1f8a;1f83 1f8b",
   "1f84 1f8c;1f85 1f8d;1f86 1f8e;1f87 1f8f;1f90 1f98;1f91 1f99;1f92 1f9a;1f93 1f9b;1f94 1f9c",
   "1f95 1f9d;1f96 1f9e;1f97 1f9f;1fa0 1fa8;1fa1 1fa9;1fa2 1faa;1fa3 1fab;1fa4 1fac;1fa5 1fad",
   "1fa6 1fae;1fa7 1faf;1fb0 1fb8;1fb1 1fb9;1fb3 1fbc;1fc3 1fcc;1fd0 1fd8;1fd1 1fd9;1fe0 1fe8",
   "1fe1 1fe9;1fe5 1fec;1ff3 1ffc;2132 214e;2160 2170;2161 2171;2162 2172;2163 2173;2164 2174",
   "2165 2175;2166 2176;2167 2177;2168 2178;2169 2179;216a 217a;216b 217b;216c 217c;216d 217d",
   "216e 217e;216f 217f;2183 2184;24b6 24d0;24b7 24d1;24b8 24d2;24b9 24d3;24ba 24d4;24bb 24d5",
   "24bc 24d6;24bd 24d7;24be 24d8;24bf 24d9;24c0 24da;24c1 24db;24c2 24dc;24c3 24dd;24c4 24de",
   "24c5 24df;24c6 24e0;24c7 24e1;24c8 24e2;24c9 24e3;24ca 24e4;24cb 24e5;24cc 24e6;24cd 24e7",
   "24ce 24e8;24cf 24e9;2c00 2c30;2c01 2c31;2c02 2c32;2c03 2c33;2c04 2c34;2c05 2c35;2c06 2c36",
   "2c07 2c37;2c08 2c38;2c09 2c39;2c0a 2c3a;2c0b 2c3b;2c0c 2c3c;2c0d 2c3d;2c0e 2c3e;2c0f 2c3f",
   "2c10 2c40;2c11 2c41;2c12 2c42;2c13 2c43;2c14 2c44;2c15 2c45;2c16 2c46;2c17 2c47;2c18 2c48",
   "2c19 2c49;2c1a 2c4a;2c1b 2c4b;2c1c 2c4c;2c1d 2c4d;2c1e 2c4e;2c1f 2c4f;2c20 2c50;2c21 2c51",
   "2c22 2c52;2c23 2c53;2c24 2c54;2c25 2c55;2c26 2c56;2c27 2c57;2c28 2c58;2c29 2c59;2c2a 2c5a",
   "2c2b 2c5b;2c2c 2c5c;2c2d 2c5d;2c2e 2c5e;2c2f 2c5f;2c60 2c61;2c67 2c68;2c69 2c6a;2c6b 2c6c",
   "2c72 2c73;2c75 2c76;2c80 2c81;2c82 2c83;2c84 2c85;2c86 2c87;2c88 2c89;2c8a 2c8b;2c8c 2c8d",
   "2c8e 2c8f;2c90 2c91;2c92 2c93;2c94 2c95;2c96 2c97;2c98 2c99;2c9a 2c9b;2c9c 2c9d;2c9e 2c9f",
   "2ca0 2ca1;2ca2 2ca3;2ca4 2ca5;2ca6 2ca7;2ca8 2ca9;2caa 2cab;2cac 2cad;2cae 2caf;2cb0 2cb1",
   "2cb2 2cb3;2cb4 2cb5;2cb6 2cb7;2cb8 2cb9;2cba 2cbb;2cbc 2cbd;2cbe 2cbf;2cc0 2cc1;2cc2 2cc3",
   "2cc4 2cc5;2cc6 2cc7;2cc8 2cc9;2cca 2ccb;2ccc 2ccd;2cce 2ccf;2cd0 2cd1;2cd2 2cd3;2cd4 2cd5",
   "2cd6 2cd7;2cd8 2cd9;2cda 2cdb;2cdc 2cdd;2cde 2cdf;2ce0 2ce1;2ce2 2ce3;2ceb 2cec;2ced 2cee",
   "2cf2 2cf3;a640 a641;a642 a643;a644 a645;a646 a647;a648 a649;a64c a64d;a64e a64f;a650 a651",
   "a652 a653;a654 a655;a656 a657;a658 a659;a65a a65b;a65c a65d;a65e a65f;a660 a661;a662 a663",
   "a664 a665;a666 a667;a668 a669;a66a a66b;a66c a66d;a680 a681;a682 a683;a684 a685;a686 a687",
   "a688 a689;a68a a68b;a68c a68d;a68e a68f;a690 a691;a692 a693;a694 a695;a696 a697;a698 a699",
   "a69a a69b;a722 a723;a724 a725;a726 a727;a728 a729;a72a a72b;a72c a72d;a72e a72f;a732 a733",
   "a734 a735;a736 a737;a738 a739;a73a a73b;a73c a73d;a73e a73f;a740 a741;a742 a743;a744 a745",
   "a746 a747;a748 a749;a74a a74b;a74c a74d;a74e a74f;a750 a751;a752 a753;a754 a755;a756 a757",
   "a758 a759;a75a a75b;a75c a75d;a75e a75f;a760 a761;a762 a763;a764 a765;a766 a767;a768 a769",
   "a76a a76b;a76c a76d;a76e a76f;a779 a77a;a77b a77c;a77e a77f;a780 a781;a782 a783;a784 a785",
   "a786 a787;a78b a78c;a790 a791;a792 a793;a794 a7c4;a796 a797;a798 a799;a79a a79b;a79c a79d",
   "a79e a79f;a7a0 a7a1;a7a2 a7a3;a7a4 a7a5;a7a6 a7a7;a7a8 a7a9;a7b3 ab53;a7b4 a7b5;a7b6 a7b7",
   "a7b8 a7b9;a7ba a7bb;a7bc a7bd;a7be a7bf;a7c0 a7c1;a7c2 a7c3;a7c7 a7c8;a7c9 a7ca;a7d0 a7d1",
   "a7d6 a7d7;a7d8 a7d9;a7f5 a7f6;ff21 ff41;ff22 ff42;ff23 ff43;ff24 ff44;ff25 ff45;ff26 ff46",
   "ff27 ff47;ff28 ff48;ff29 ff49;ff2a ff4a;ff2b ff4b;ff2c ff4c;ff2d ff4d;ff2e ff4e;ff2f ff4f",
   "ff30 ff50;ff31 ff51;ff32 ff52;ff33 ff53;ff34 ff54;ff35 ff55;ff36 ff56;ff37 ff57;ff38 ff58",
   "ff39 ff59;ff3a ff5a;10400 10428;10401 10429;10402 1042a;10403 1042b;10404 1042c;10405 1042d",
   "10406 1042e;10407 1042f;10408 10430;10409 10431;1040a 10432;1040b 10433;1040c 10434",
   "1040d 10435;1040e 10436;1040f 10437;10410 10438;10411 10439;10412 1043a;10413 1043b",
   "10414 1043c;10415 1043d;10416 1043e;10417 1043f;10418 10440;10419 10441;1041a 10442",
   "1041b 10443;1041c 10444;1041d 10445;1041e 10446;1041f 10447;10420 10448;10421 10449",
   "10422 1044a;10423 1044b;10424 1044c;10425 1044d;10426 1044e;10427 1044f;104b0 104d8",
   "104b1 104d9;104b2 104da;104b3 104db;104b4 104dc;104b5 104dd;104b6 104de;104b7 104df",
   "104b8 104e0;104b9 104e1;104ba 104e2;104bb 104e3;104bc 104e4;104bd 104e5;104be 104e6",
   "104bf 104e7;104c0 104e8;104c1 104e9;104c2 104ea;104c3 104eb;104c4 104ec;104c5 104ed",
   "104c6 104ee;104c7 104ef;104c8 104f0;104c9 104f1;104ca 104f2;104cb 104f3;104cc 104f4",
   "104cd 104f5;104ce 104f6;104cf 104f7;104d0 104f8;104d1 104f9;104d2 104fa;104d3 104fb",
   "10570 10597;10571 10598;10572 10599;10573 1059a;10574 1059b;10575 1059c;10576 1059d",
   "10577 1059e;10578 1059f;10579 105a0;1057a 105a1;1057c 105a3;1057d 105a4;1057e 105a5",
   "1057f 105a6;10580 105a7;10581 105a8;10582 105a9;10583 105aa;10584 105ab;10585 105ac",
   "10586 105ad;10587 105ae;10588 105af;10589 105b0;1058a 105b1;1058c 105b3;1058d 105b4",
   "1058e 105b5;1058f 105b6;10590 105b7;10591 105b8;10592 105b9;10594 105bb;10595 105bc",
   "10c80 10cc0;10c81 10cc1;10c82 10cc2;10c83 10cc3;10c84 10cc4;10c85 10cc5;10c86 10cc6",
   "10c87 10cc7;10c88 10cc8;10c89 10cc9;10c8a 10cca;10c8b 10ccb;10c8c 10ccc;10c8d 10ccd",
   "10c8e 10cce;10c8f 10ccf;10c90 10cd0;10c91 10cd1;10c92 10cd2;10c93 10cd3;10c94 10cd4",
   "10c95 10cd5;10c96 10cd6;10c97 10cd7;10c98 10cd8;10c99 10cd9;10c9a 10cda;10c9b 10cdb",
   "10c9c 10cdc;10c9d 10cdd;10c9e 10cde;10c9f 10cdf;10ca0 10ce0;10ca1 10ce1;10ca2 10ce2",
   "10ca3 10ce3;10ca4 10ce4;10ca5 10ce5;10ca6 10ce6;10ca7 10ce7;10ca8 10ce8;10ca9 10ce9",
   "10caa 10cea;10cab 10ceb;10cac 10cec;10cad 10ced;10cae 10cee;10caf 10cef;10cb0 10cf0",
   "10cb1 10cf1;10cb2 10cf2;118a0 118c0;118a1 118c1;118a2 118c2;118a3 118c3;118a4 118c4",
   "118a5 118c5;118a6 118c6;118a7 118c7;118a8 118c8;118a9 118c9;118aa 118ca;118ab 118cb",
   "118ac 118cc;118ad 118cd;118ae 118ce;118af 118cf;118b0 118d0;118b1 118d1;118b2 118d2",
   "118b3 118d3;118b4 118d4;118b5 118d5;118b6 118d6;118b7 118d7;118b8 118d8;118b9 118d9",
   "118ba 118da;118bb 118db;118bc 118dc;118bd 118dd;118be 118de;118bf 118df;16e40 16e60",
   "16e41 16e61;16e42 16e62;16e43 16e63;16e44 16e64;16e45 16e65;16e46 16e66;16e47 16e67",
   "16e48 16e68;16e49 16e69;16e4a 16e6a;16e4b 16e6b;16e4c 16e6c;16e4d 16e6d;16e4e 16e6e",
   "16e4f 16e6f;16e50 16e70;16e51 16e71;16e52 16e72;16e53 16e73;16e54 16e74;16e55 16e75",
   "16e56 16e76;16e57 16e77;16e58 16e78;16e59 16e79;16e5a 16e7a;16e5b 16e7b;16e5c 16e7c",
   "16e5d 16e7d;16e5e 16e7e;16e5f 16e7f;1e900 1e922;1e901 1e923;1e902 1e924;1e903 1e925",
   "1e904 1e926;1e905 1e927;1e906 1e928;1e907 1e929;1e908 1e92a;1e909 1e92b;1e90a 1e92c",
   "1e90b 1e92d;1e90c 1e92e;1e90d 1e92f;1e90e 1e930;1e90f 1e931;1e910 1e932;1e911 1e933",
   "1e912 1e934;1e913 1e935;1e914 1e936;1e915 1e937;1e916 1e938;1e917 1e939;1e918 1e93a",
   "1e919 1e93b;1e91a 1e93c;1e91b 1e93d;1e91c 1e93e;1e91d 1e93f;1e91e 1e940;1e91f 1e941",
   "1e920 1e942;1e921 1e943"]

/-- The general categories as ranges. -/
def categoryEntries : List (Nat × Nat × String) := categoryLines.flatMap readEntries

/-- The scripts as ranges. -/
def scriptEntries : List (Nat × Nat × String) := scriptLines.flatMap readEntries

/-- The classes of characters equal under simple case folding. -/
def foldClasses : List (List Nat) :=
  foldLines.flatMap fun line =>
    (line.splitOn ";").map fun cls => (cls.splitOn " ").map fun p => (readRange p).1

end SlotAllocation.Text
