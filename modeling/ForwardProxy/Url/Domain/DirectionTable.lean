import ForwardProxy.Text.Table

/-!
# Tables of writing direction and joining
-/

namespace ForwardProxy.Url.Domain

/-- A row holds the first point of a range and the number of its direction class, in the order of
the constructors of `Direction`. -/
def directionText : String :=
  "0.9 9.B E.9 1C.B 21.8 23.7 26.8 2B.5 2C.6 2D.5 2E.6 30.4 3A.6 3B.8 41.0 5B.8 61.0 7B.8 7F.9 85.B
86.9 A0.6 A1.8 A2.7 A6.8 AA.0 AB.8 AD.9 AE.8 B0.7 B2.4 B4.8 B5.0 B6.8 B9.4 BA.0 BB.8 C0.0 D7.8
D8.0 F7.8 F8.0 2B9.8 2BB.0 2C2.8 2D0.0 2D2.8 2E0.0 2E5.8 2EE.0 2EF.8 300.A 370.0 374.8 376.0 37E.8
37F.0 384.8 386.0 387.8 388.0 3F6.8 3F7.0 483.A 48A.0 58A.8 58B.0 58D.8 58F.7 590.1 591.A 5BE.1
5BF.A 5C0.1 5C1.A 5C3.1 5C4.A 5C6.1 5C7.A 5C8.1 600.3 606.8 608.2 609.7 60B.2 60C.6 60D.2 60E.8
610.A 61B.2 64B.A 660.3 66A.7 66B.3 66D.2 670.A 671.2 6D6.A 6DD.3 6DE.8 6DF.A 6E5.2 6E7.A 6E9.8
6EA.A 6EE.2 6F0.4 6FA.2 711.A 712.2 730.A 74B.2 7A6.A 7B1.2 7C0.1 7EB.A 7F4.1 7F6.8 7FA.1 7FD.A
7FE.1 816.A 81A.1 81B.A 824.1 825.A 828.1 829.A 82E.1 859.A 85C.1 860.2 890.3 892.2 898.A 8A0.2
8CA.A 8E2.3 8E3.A 903.0 93A.A 93B.0 93C.A 93D.0 941.A 949.0 94D.A 94E.0 951.A 958.0 962.A 964.0
981.A 982.0 9BC.A 9BD.0 9C1.A 9C5.0 9CD.A 9CE.0 9E2.A 9E4.0 9F2.7 9F4.0 9FB.7 9FC.0 9FE.A 9FF.0
A01.A A03.0 A3C.A A3D.0 A41.A A43.0 A47.A A49.0 A4B.A A4E.0 A51.A A52.0 A70.A A72.0 A75.A A76.0
A81.A A83.0 ABC.A ABD.0 AC1.A AC6.0 AC7.A AC9.0 ACD.A ACE.0 AE2.A AE4.0 AF1.7 AF2.0 AFA.A B00.0
B01.A B02.0 B3C.A B3D.0 B3F.A B40.0 B41.A B45.0 B4D.A B4E.0 B55.A B57.0 B62.A B64.0 B82.A B83.0
BC0.A BC1.0 BCD.A BCE.0 BF3.8 BF9.7 BFA.8 BFB.0 C00.A C01.0 C04.A C05.0 C3C.A C3D.0 C3E.A C41.0
C46.A C49.0 C4A.A C4E.0 C55.A C57.0 C62.A C64.0 C78.8 C7F.0 C81.A C82.0 CBC.A CBD.0 CCC.A CCE.0
CE2.A CE4.0 D00.A D02.0 D3B.A D3D.0 D41.A D45.0 D4D.A D4E.0 D62.A D64.0 D81.A D82.0 DCA.A DCB.0
DD2.A DD5.0 DD6.A DD7.0 E31.A E32.0 E34.A E3B.0 E3F.7 E40.0 E47.A E4F.0 EB1.A EB2.0 EB4.A EBD.0
EC8.A ECF.0 F18.A F1A.0 F35.A F36.0 F37.A F38.0 F39.A F3A.8 F3E.0 F71.A F7F.0 F80.A F85.0 F86.A
F88.0 F8D.A F98.0 F99.A FBD.0 FC6.A FC7.0 102D.A 1031.0 1032.A 1038.0 1039.A 103B.0 103D.A 103F.0
1058.A 105A.0 105E.A 1061.0 1071.A 1075.0 1082.A 1083.0 1085.A 1087.0 108D.A 108E.0 109D.A 109E.0
135D.A 1360.0 1390.8 139A.0 1400.8 1401.0 1680.B 1681.0 169B.8 169D.0 1712.A 1715.0 1732.A 1734.0
1752.A 1754.0 1772.A 1774.0 17B4.A 17B6.0 17B7.A 17BE.0 17C6.A 17C7.0 17C9.A 17D4.0 17DB.7 17DC.0
17DD.A 17DE.0 17F0.8 17FA.0 1800.8 180B.A 180E.9 180F.A 1810.0 1885.A 1887.0 18A9.A 18AA.0 1920.A
1923.0 1927.A 1929.0 1932.A 1933.0 1939.A 193C.0 1940.8 1941.0 1944.8 1946.0 19DE.8 1A00.0 1A17.A
1A19.0 1A1B.A 1A1C.0 1A56.A 1A57.0 1A58.A 1A5F.0 1A60.A 1A61.0 1A62.A 1A63.0 1A65.A 1A6D.0 1A73.A
1A7D.0 1A7F.A 1A80.0 1AB0.A 1ACF.0 1B00.A 1B04.0 1B34.A 1B35.0 1B36.A 1B3B.0 1B3C.A 1B3D.0 1B42.A
1B43.0 1B6B.A 1B74.0 1B80.A 1B82.0 1BA2.A 1BA6.0 1BA8.A 1BAA.0 1BAB.A 1BAE.0 1BE6.A 1BE7.0 1BE8.A
1BEA.0 1BED.A 1BEE.0 1BEF.A 1BF2.0 1C2C.A 1C34.0 1C36.A 1C38.0 1CD0.A 1CD3.0 1CD4.A 1CE1.0 1CE2.A
1CE9.0 1CED.A 1CEE.0 1CF4.A 1CF5.0 1CF8.A 1CFA.0 1DC0.A 1E00.0 1FBD.8 1FBE.0 1FBF.8 1FC2.0 1FCD.8
1FD0.0 1FDD.8 1FE0.0 1FED.8 1FF0.0 1FFD.8 1FFF.0 2000.B 200B.9 200E.0 200F.1 2010.8 2028.B 202F.6
2030.7 2035.8 2044.6 2045.8 205F.B 2060.9 2066.B 206A.9 2070.4 2071.0 2074.4 207A.5 207C.8 207F.0
2080.4 208A.5 208C.8 208F.0 20A0.7 20D0.A 20F1.0 2100.8 2102.0 2103.8 2107.0 2108.8 210A.0 2114.8
2115.0 2116.8 2119.0 211E.8 2124.0 2125.8 2126.0 2127.8 2128.0 2129.8 212A.0 212E.7 212F.0 213A.8
213C.0 2140.8 2145.0 214A.8 214E.0 2150.8 2160.0 2189.8 218C.0 2190.8 2212.5 2213.7 2214.8 2336.0
237B.8 2395.0 2396.8 2427.0 2440.8 244B.0 2460.8 2488.4 249C.0 24EA.8 26AC.0 26AD.8 2800.0 2900.8
2B74.0 2B76.8 2B96.0 2B97.8 2C00.0 2CE5.8 2CEB.0 2CEF.A 2CF2.0 2CF9.8 2D00.0 2D7F.A 2D80.0 2DE0.A
2E00.8 2E5E.0 2E80.8 2E9A.0 2E9B.8 2EF4.0 2F00.8 2FD6.0 2FF0.8 2FFC.0 3000.B 3001.8 3005.0 3008.8
3021.0 302A.A 302E.0 3030.8 3031.0 3036.8 3038.0 303D.8 3040.0 3099.A 309B.8 309D.0 30A0.8 30A1.0
30FB.8 30FC.0 31C0.8 31E4.0 321D.8 321F.0 3250.8 3260.0 327C.8 327F.0 32B1.8 32C0.0 32CC.8 32D0.0
3377.8 337B.0 33DE.8 33E0.0 33FF.8 3400.0 4DC0.8 4E00.0 A490.8 A4C7.0 A60D.8 A610.0 A66F.A A673.8
A674.A A67E.8 A680.0 A69E.A A6A0.0 A6F0.A A6F2.0 A700.8 A722.0 A788.8 A789.0 A802.A A803.0 A806.A
A807.0 A80B.A A80C.0 A825.A A827.0 A828.8 A82C.A A82D.0 A838.7 A83A.0 A874.8 A878.0 A8C4.A A8C6.0
A8E0.A A8F2.0 A8FF.A A900.0 A926.A A92E.0 A947.A A952.0 A980.A A983.0 A9B3.A A9B4.0 A9B6.A A9BA.0
A9BC.A A9BE.0 A9E5.A A9E6.0 AA29.A AA2F.0 AA31.A AA33.0 AA35.A AA37.0 AA43.A AA44.0 AA4C.A AA4D.0
AA7C.A AA7D.0 AAB0.A AAB1.0 AAB2.A AAB5.0 AAB7.A AAB9.0 AABE.A AAC0.0 AAC1.A AAC2.0 AAEC.A AAEE.0
AAF6.A AAF7.0 AB6A.8 AB6C.0 ABE5.A ABE6.0 ABE8.A ABE9.0 ABED.A ABEE.0 FB1D.1 FB1E.A FB1F.1 FB29.5
FB2A.1 FB50.2 FD3E.8 FD50.2 FDCF.8 FDD0.9 FDF0.2 FDFD.8 FE00.A FE10.8 FE1A.0 FE20.A FE30.8 FE50.6
FE51.8 FE52.6 FE53.0 FE54.8 FE55.6 FE56.8 FE5F.7 FE60.8 FE62.5 FE64.8 FE67.0 FE68.8 FE69.7 FE6B.8
FE6C.0 FE70.2 FEFF.9 FF00.0 FF01.8 FF03.7 FF06.8 FF0B.5 FF0C.6 FF0D.5 FF0E.6 FF10.4 FF1A.6 FF1B.8
FF21.0 FF3B.8 FF41.0 FF5B.8 FF66.0 FFE0.7 FFE2.8 FFE5.7 FFE7.0 FFE8.8 FFEF.0 FFF0.9 FFF9.8 FFFE.9
10000.0 10101.8 10102.0 10140.8 1018D.0 10190.8 1019D.0 101A0.8 101A1.0 101FD.A 101FE.0 102E0.A
102E1.4 102FC.0 10376.A 1037B.0 10800.1 1091F.8 10920.1 10A01.A 10A04.1 10A05.A 10A07.1 10A0C.A
10A10.1 10A38.A 10A3B.1 10A3F.A 10A40.1 10AE5.A 10AE7.1 10B39.8 10B40.1 10D00.2 10D24.A 10D28.2
10D30.3 10D3A.2 10D40.1 10E60.3 10E7F.1 10EAB.A 10EAD.1 10EC0.2 10EFD.A 10F00.1 10F30.2 10F46.A
10F51.2 10F70.1 10F82.A 10F86.1 11000.0 11001.A 11002.0 11038.A 11047.0 11052.8 11066.0 11070.A
11071.0 11073.A 11075.0 1107F.A 11082.0 110B3.A 110B7.0 110B9.A 110BB.0 110C2.A 110C3.0 11100.A
11103.0 11127.A 1112C.0 1112D.A 11135.0 11173.A 11174.0 11180.A 11182.0 111B6.A 111BF.0 111C9.A
111CD.0 111CF.A 111D0.0 1122F.A 11232.0 11234.A 11235.0 11236.A 11238.0 1123E.A 1123F.0 11241.A
11242.0 112DF.A 112E0.0 112E3.A 112EB.0 11300.A 11302.0 1133B.A 1133D.0 11340.A 11341.0 11366.A
1136D.0 11370.A 11375.0 11438.A 11440.0 11442.A 11445.0 11446.A 11447.0 1145E.A 1145F.0 114B3.A
114B9.0 114BA.A 114BB.0 114BF.A 114C1.0 114C2.A 114C4.0 115B2.A 115B6.0 115BC.A 115BE.0 115BF.A
115C1.0 115DC.A 115DE.0 11633.A 1163B.0 1163D.A 1163E.0 1163F.A 11641.0 11660.8 1166D.0 116AB.A
116AC.0 116AD.A 116AE.0 116B0.A 116B6.0 116B7.A 116B8.0 1171D.A 11720.0 11722.A 11726.0 11727.A
1172C.0 1182F.A 11838.0 11839.A 1183B.0 1193B.A 1193D.0 1193E.A 1193F.0 11943.A 11944.0 119D4.A
119D8.0 119DA.A 119DC.0 119E0.A 119E1.0 11A01.A 11A07.0 11A09.A 11A0B.0 11A33.A 11A39.0 11A3B.A
11A3F.0 11A47.A 11A48.0 11A51.A 11A57.0 11A59.A 11A5C.0 11A8A.A 11A97.0 11A98.A 11A9A.0 11C30.A
11C37.0 11C38.A 11C3E.0 11C92.A 11CA8.0 11CAA.A 11CB1.0 11CB2.A 11CB4.0 11CB5.A 11CB7.0 11D31.A
11D37.0 11D3A.A 11D3B.0 11D3C.A 11D3E.0 11D3F.A 11D46.0 11D47.A 11D48.0 11D90.A 11D92.0 11D95.A
11D96.0 11D97.A 11D98.0 11EF3.A 11EF5.0 11F00.A 11F02.0 11F36.A 11F3B.0 11F40.A 11F41.0 11F42.A
11F43.0 11FD5.8 11FDD.7 11FE1.8 11FF2.0 13440.A 13441.0 13447.A 13456.0 16AF0.A 16AF5.0 16B30.A
16B37.0 16F4F.A 16F50.0 16F8F.A 16F93.0 16FE2.8 16FE3.0 16FE4.A 16FE5.0 1BC9D.A 1BC9F.0 1BCA0.9
1BCA4.0 1CF00.A 1CF2E.0 1CF30.A 1CF47.0 1D167.A 1D16A.0 1D173.9 1D17B.A 1D183.0 1D185.A 1D18C.0
1D1AA.A 1D1AE.0 1D1E9.8 1D1EB.0 1D200.8 1D242.A 1D245.8 1D246.0 1D300.8 1D357.0 1D6DB.8 1D6DC.0
1D715.8 1D716.0 1D74F.8 1D750.0 1D789.8 1D78A.0 1D7C3.8 1D7C4.0 1D7CE.4 1D800.0 1DA00.A 1DA37.0
1DA3B.A 1DA6D.0 1DA75.A 1DA76.0 1DA84.A 1DA85.0 1DA9B.A 1DAA0.0 1DAA1.A 1DAB0.0 1E000.A 1E007.0
1E008.A 1E019.0 1E01B.A 1E022.0 1E023.A 1E025.0 1E026.A 1E02B.0 1E08F.A 1E090.0 1E130.A 1E137.0
1E2AE.A 1E2AF.0 1E2EC.A 1E2F0.0 1E2FF.7 1E300.0 1E4EC.A 1E4F0.0 1E800.1 1E8D0.A 1E8D7.1 1E944.A
1E94B.1 1EC70.2 1ECC0.1 1ED00.2 1ED50.1 1EE00.2 1EEF0.8 1EEF2.2 1EF00.1 1F000.8 1F02C.0 1F030.8
1F094.0 1F0A0.8 1F0AF.0 1F0B1.8 1F0C0.0 1F0C1.8 1F0D0.0 1F0D1.8 1F0F6.0 1F100.4 1F10B.8 1F110.0
1F12F.8 1F130.0 1F16A.8 1F170.0 1F1AD.8 1F1AE.0 1F260.8 1F266.0 1F300.8 1F6D8.0 1F6DC.8 1F6ED.0
1F6F0.8 1F6FD.0 1F700.8 1F777.0 1F77B.8 1F7DA.0 1F7E0.8 1F7EC.0 1F7F0.8 1F7F1.0 1F800.8 1F80C.0
1F810.8 1F848.0 1F850.8 1F85A.0 1F860.8 1F888.0 1F890.8 1F8AE.0 1F8B0.8 1F8B2.0 1F900.8 1FA54.0
1FA60.8 1FA6E.0 1FA70.8 1FA7D.0 1FA80.8 1FA89.0 1FA90.8 1FABE.0 1FABF.8 1FAC6.0 1FACE.8 1FADC.0
1FAE0.8 1FAE9.0 1FAF0.8 1FAF9.0 1FB00.8 1FB93.0 1FB94.8 1FBCB.0 1FBF0.4 1FBFA.0 1FFFE.9 20000.0
2FFFE.9 30000.0 3FFFE.9 40000.0 4FFFE.9 50000.0 5FFFE.9 60000.0 6FFFE.9 70000.0 7FFFE.9 80000.0
8FFFE.9 90000.0 9FFFE.9 A0000.0 AFFFE.9 B0000.0 BFFFE.9 C0000.0 CFFFE.9 D0000.0 DFFFE.9 E0100.A
E01F0.9 E1000.0 EFFFE.9 F0000.0 FFFFE.9 100000.0 10FFFE.9 110000.0"

/-- A row holds the first point of a range and the number of its joining type, in the order of the
constructors of `Joining`. -/
def joiningText : String :=
  "AD.1 AE.0 300.1 370.0 483.1 48A.0 591.1 5BE.0 5BF.1 5C0.0 5C1.1 5C3.0 5C4.1 5C6.0 5C7.1 5C8.0
610.1 61B.0 61C.1 61D.0 620.4 621.0 622.3 626.4 627.3 628.4 629.3 62A.4 62F.3 633.4 640.0 641.4
648.3 649.4 64B.1 660.0 66E.4 670.1 671.3 674.0 675.3 678.4 688.3 69A.4 6C0.3 6C1.4 6C3.3 6CC.4
6CD.3 6CE.4 6CF.3 6D0.4 6D2.3 6D4.0 6D5.3 6D6.1 6DD.0 6DF.1 6E5.0 6E7.1 6E9.0 6EA.1 6EE.3 6F0.0
6FA.4 6FD.0 6FF.4 700.0 70F.1 710.3 711.1 712.4 715.3 71A.4 71E.3 71F.4 728.3 729.4 72A.3 72B.4
72C.3 72D.4 72F.3 730.1 74B.0 74D.3 74E.4 759.3 75C.4 76B.3 76D.4 771.3 772.4 773.3 775.4 778.3
77A.4 780.0 7A6.1 7B1.0 7CA.4 7EB.1 7F4.0 7FD.1 7FE.0 816.1 81A.0 81B.1 824.0 825.1 828.0 829.1
82E.0 840.3 841.4 846.3 848.4 849.3 84A.4 854.3 855.4 856.3 859.1 85C.0 860.4 861.0 862.4 866.0
867.3 868.4 869.3 86B.0 870.3 883.0 886.4 887.0 889.4 88E.3 88F.0 898.1 8A0.4 8AA.3 8AD.0 8AE.3
8AF.4 8B1.3 8B3.4 8B9.3 8BA.4 8C9.0 8CA.1 8E2.0 8E3.1 903.0 93A.1 93B.0 93C.1 93D.0 941.1 949.0
94D.1 94E.0 951.1 958.0 962.1 964.0 981.1 982.0 9BC.1 9BD.0 9C1.1 9C5.0 9CD.1 9CE.0 9E2.1 9E4.0
9FE.1 9FF.0 A01.1 A03.0 A3C.1 A3D.0 A41.1 A43.0 A47.1 A49.0 A4B.1 A4E.0 A51.1 A52.0 A70.1 A72.0
A75.1 A76.0 A81.1 A83.0 ABC.1 ABD.0 AC1.1 AC6.0 AC7.1 AC9.0 ACD.1 ACE.0 AE2.1 AE4.0 AFA.1 B00.0
B01.1 B02.0 B3C.1 B3D.0 B3F.1 B40.0 B41.1 B45.0 B4D.1 B4E.0 B55.1 B57.0 B62.1 B64.0 B82.1 B83.0
BC0.1 BC1.0 BCD.1 BCE.0 C00.1 C01.0 C04.1 C05.0 C3C.1 C3D.0 C3E.1 C41.0 C46.1 C49.0 C4A.1 C4E.0
C55.1 C57.0 C62.1 C64.0 C81.1 C82.0 CBC.1 CBD.0 CBF.1 CC0.0 CC6.1 CC7.0 CCC.1 CCE.0 CE2.1 CE4.0
D00.1 D02.0 D3B.1 D3D.0 D41.1 D45.0 D4D.1 D4E.0 D62.1 D64.0 D81.1 D82.0 DCA.1 DCB.0 DD2.1 DD5.0
DD6.1 DD7.0 E31.1 E32.0 E34.1 E3B.0 E47.1 E4F.0 EB1.1 EB2.0 EB4.1 EBD.0 EC8.1 ECF.0 F18.1 F1A.0
F35.1 F36.0 F37.1 F38.0 F39.1 F3A.0 F71.1 F7F.0 F80.1 F85.0 F86.1 F88.0 F8D.1 F98.0 F99.1 FBD.0
FC6.1 FC7.0 102D.1 1031.0 1032.1 1038.0 1039.1 103B.0 103D.1 103F.0 1058.1 105A.0 105E.1 1061.0
1071.1 1075.0 1082.1 1083.0 1085.1 1087.0 108D.1 108E.0 109D.1 109E.0 135D.1 1360.0 1712.1 1715.0
1732.1 1734.0 1752.1 1754.0 1772.1 1774.0 17B4.1 17B6.0 17B7.1 17BE.0 17C6.1 17C7.0 17C9.1 17D4.0
17DD.1 17DE.0 1807.4 1808.0 180B.1 180E.0 180F.1 1810.0 1820.4 1879.0 1885.1 1887.4 18A9.1 18AA.4
18AB.0 1920.1 1923.0 1927.1 1929.0 1932.1 1933.0 1939.1 193C.0 1A17.1 1A19.0 1A1B.1 1A1C.0 1A56.1
1A57.0 1A58.1 1A5F.0 1A60.1 1A61.0 1A62.1 1A63.0 1A65.1 1A6D.0 1A73.1 1A7D.0 1A7F.1 1A80.0 1AB0.1
1ACF.0 1B00.1 1B04.0 1B34.1 1B35.0 1B36.1 1B3B.0 1B3C.1 1B3D.0 1B42.1 1B43.0 1B6B.1 1B74.0 1B80.1
1B82.0 1BA2.1 1BA6.0 1BA8.1 1BAA.0 1BAB.1 1BAE.0 1BE6.1 1BE7.0 1BE8.1 1BEA.0 1BED.1 1BEE.0 1BEF.1
1BF2.0 1C2C.1 1C34.0 1C36.1 1C38.0 1CD0.1 1CD3.0 1CD4.1 1CE1.0 1CE2.1 1CE9.0 1CED.1 1CEE.0 1CF4.1
1CF5.0 1CF8.1 1CFA.0 1DC0.1 1E00.0 200B.1 200C.0 200E.1 2010.0 202A.1 202F.0 2060.1 2065.0 206A.1
2070.0 20D0.1 20F1.0 2CEF.1 2CF2.0 2D7F.1 2D80.0 2DE0.1 2E00.0 302A.1 302E.0 3099.1 309B.0 A66F.1
A673.0 A674.1 A67E.0 A69E.1 A6A0.0 A6F0.1 A6F2.0 A802.1 A803.0 A806.1 A807.0 A80B.1 A80C.0 A825.1
A827.0 A82C.1 A82D.0 A840.4 A872.2 A873.0 A8C4.1 A8C6.0 A8E0.1 A8F2.0 A8FF.1 A900.0 A926.1 A92E.0
A947.1 A952.0 A980.1 A983.0 A9B3.1 A9B4.0 A9B6.1 A9BA.0 A9BC.1 A9BE.0 A9E5.1 A9E6.0 AA29.1 AA2F.0
AA31.1 AA33.0 AA35.1 AA37.0 AA43.1 AA44.0 AA4C.1 AA4D.0 AA7C.1 AA7D.0 AAB0.1 AAB1.0 AAB2.1 AAB5.0
AAB7.1 AAB9.0 AABE.1 AAC0.0 AAC1.1 AAC2.0 AAEC.1 AAEE.0 AAF6.1 AAF7.0 ABE5.1 ABE6.0 ABE8.1 ABE9.0
ABED.1 ABEE.0 FB1E.1 FB1F.0 FE00.1 FE10.0 FE20.1 FE30.0 FEFF.1 FF00.0 FFF9.1 FFFC.0 101FD.1
101FE.0 102E0.1 102E1.0 10376.1 1037B.0 10A01.1 10A04.0 10A05.1 10A07.0 10A0C.1 10A10.0 10A38.1
10A3B.0 10A3F.1 10A40.0 10AC0.4 10AC5.3 10AC6.0 10AC7.3 10AC8.0 10AC9.3 10ACB.0 10ACD.2 10ACE.3
10AD3.4 10AD7.2 10AD8.4 10ADD.3 10ADE.4 10AE1.3 10AE2.0 10AE4.3 10AE5.1 10AE7.0 10AEB.4 10AEF.3
10AF0.0 10B80.4 10B81.3 10B82.4 10B83.3 10B86.4 10B89.3 10B8A.4 10B8C.3 10B8D.4 10B8E.3 10B90.4
10B91.3 10B92.0 10BA9.3 10BAD.4 10BAF.0 10D00.2 10D01.4 10D22.3 10D23.4 10D24.1 10D28.0 10EAB.1
10EAD.0 10EFD.1 10F00.0 10F30.4 10F33.3 10F34.4 10F45.0 10F46.1 10F51.4 10F54.3 10F55.0 10F70.4
10F74.3 10F76.4 10F82.1 10F86.0 10FB0.4 10FB1.0 10FB2.4 10FB4.3 10FB7.0 10FB8.4 10FB9.3 10FBB.4
10FBD.3 10FBE.4 10FC0.0 10FC1.4 10FC2.3 10FC4.4 10FC5.0 10FC9.3 10FCA.4 10FCB.2 10FCC.0 11001.1
11002.0 11038.1 11047.0 11070.1 11071.0 11073.1 11075.0 1107F.1 11082.0 110B3.1 110B7.0 110B9.1
110BB.0 110C2.1 110C3.0 11100.1 11103.0 11127.1 1112C.0 1112D.1 11135.0 11173.1 11174.0 11180.1
11182.0 111B6.1 111BF.0 111C9.1 111CD.0 111CF.1 111D0.0 1122F.1 11232.0 11234.1 11235.0 11236.1
11238.0 1123E.1 1123F.0 11241.1 11242.0 112DF.1 112E0.0 112E3.1 112EB.0 11300.1 11302.0 1133B.1
1133D.0 11340.1 11341.0 11366.1 1136D.0 11370.1 11375.0 11438.1 11440.0 11442.1 11445.0 11446.1
11447.0 1145E.1 1145F.0 114B3.1 114B9.0 114BA.1 114BB.0 114BF.1 114C1.0 114C2.1 114C4.0 115B2.1
115B6.0 115BC.1 115BE.0 115BF.1 115C1.0 115DC.1 115DE.0 11633.1 1163B.0 1163D.1 1163E.0 1163F.1
11641.0 116AB.1 116AC.0 116AD.1 116AE.0 116B0.1 116B6.0 116B7.1 116B8.0 1171D.1 11720.0 11722.1
11726.0 11727.1 1172C.0 1182F.1 11838.0 11839.1 1183B.0 1193B.1 1193D.0 1193E.1 1193F.0 11943.1
11944.0 119D4.1 119D8.0 119DA.1 119DC.0 119E0.1 119E1.0 11A01.1 11A0B.0 11A33.1 11A39.0 11A3B.1
11A3F.0 11A47.1 11A48.0 11A51.1 11A57.0 11A59.1 11A5C.0 11A8A.1 11A97.0 11A98.1 11A9A.0 11C30.1
11C37.0 11C38.1 11C3E.0 11C3F.1 11C40.0 11C92.1 11CA8.0 11CAA.1 11CB1.0 11CB2.1 11CB4.0 11CB5.1
11CB7.0 11D31.1 11D37.0 11D3A.1 11D3B.0 11D3C.1 11D3E.0 11D3F.1 11D46.0 11D47.1 11D48.0 11D90.1
11D92.0 11D95.1 11D96.0 11D97.1 11D98.0 11EF3.1 11EF5.0 11F00.1 11F02.0 11F36.1 11F3B.0 11F40.1
11F41.0 11F42.1 11F43.0 13430.1 13441.0 13447.1 13456.0 16AF0.1 16AF5.0 16B30.1 16B37.0 16F4F.1
16F50.0 16F8F.1 16F93.0 16FE4.1 16FE5.0 1BC9D.1 1BC9F.0 1BCA0.1 1BCA4.0 1CF00.1 1CF2E.0 1CF30.1
1CF47.0 1D167.1 1D16A.0 1D173.1 1D183.0 1D185.1 1D18C.0 1D1AA.1 1D1AE.0 1D242.1 1D245.0 1DA00.1
1DA37.0 1DA3B.1 1DA6D.0 1DA75.1 1DA76.0 1DA84.1 1DA85.0 1DA9B.1 1DAA0.0 1DAA1.1 1DAB0.0 1E000.1
1E007.0 1E008.1 1E019.0 1E01B.1 1E022.0 1E023.1 1E025.0 1E026.1 1E02B.0 1E08F.1 1E090.0 1E130.1
1E137.0 1E2AE.1 1E2AF.0 1E2EC.1 1E2F0.0 1E4EC.1 1E4F0.0 1E8D0.1 1E8D7.0 1E900.4 1E944.1 1E94C.0
E0001.1 E0002.0 E0020.1 E0080.0 E0100.1 E01F0.0"

end ForwardProxy.Url.Domain
