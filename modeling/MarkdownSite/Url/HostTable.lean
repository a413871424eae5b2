/-!
# Character classes of host names

The tables of the profile by which host names are prepared: what is left out, how letters are
folded, what is refused, and which characters are written from right to left or from left to
right.
-/

namespace MarkdownSite.Url

/-- Characters that are left out of a host name. -/
def omittedRanges : List (Nat × Nat) := [
  (0xAD, 0xAD), (0x34F, 0x34F), (0x1806, 0x1806), (0x180B, 0x180D), (0x200B, 0x200D),
  (0x2060, 0x2060), (0xFE00, 0xFE0F), (0xFEFF, 0xFEFF)]

/-- Letters whose folded form is not their lower case: the letter, an equals sign, and the folded
form, in hexadecimal, each entry closed by a semicolon. -/
def foldingSource : String :=
  String.join ["B5=3BC;DF=73 73;149=2BC 6E;17F=73;1F0=6A 30C;345=3B9;37A=20 3B9;390=3B9 308 301;",
    "3B0=3C5 308 301;3C2=3C3;3D0=3B2;3D1=3B8;3D2=3C5;3D3=3CD;3D4=3CB;3D5=3C6;3D6=3C0;3F0=3BA;",
    "3F1=3C1;3F2=3C3;3F5=3B5;3F9=3C3;587=565 582;1E96=68 331;1E97=74 308;1E98=77 30A;1E99=79 30A;",
    "1E9A=61 2BE;1E9B=1E61;1E9E=73 73;1F50=3C5 313;1F52=3C5 313 300;1F54=3C5 313 301;",
    "1F56=3C5 313 342;1F80=1F00 3B9;1F81=1F01 3B9;1F82=1F02 3B9;1F83=1F03 3B9;1F84=1F04 3B9;",
    "1F85=1F05 3B9;1F86=1F06 3B9;1F87=1F07 3B9;1F88=1F00 3B9;1F89=1F01 3B9;1F8A=1F02 3B9;",
    "1F8B=1F03 3B9;1F8C=1F04 3B9;1F8D=1F05 3B9;1F8E=1F06 3B9;1F8F=1F07 3B9;1F90=1F20 3B9;",
    "1F91=1F21 3B9;1F92=1F22 3B9;1F93=1F23 3B9;1F94=1F24 3B9;1F95=1F25 3B9;1F96=1F26 3B9;",
    "1F97=1F27 3B9;1F98=1F20 3B9;1F99=1F21 3B9;1F9A=1F22 3B9;1F9B=1F23 3B9;1F9C=1F24 3B9;",
    "1F9D=1F25 3B9;1F9E=1F26 3B9;1F9F=1F27 3B9;1FA0=1F60 3B9;1FA1=1F61 3B9;1FA2=1F62 3B9;",
    "1FA3=1F63 3B9;1FA4=1F64 3B9;1FA5=1F65 3B9;1FA6=1F66 3B9;1FA7=1F67 3B9;1FA8=1F60 3B9;",
    "1FA9=1F61 3B9;1FAA=1F62 3B9;1FAB=1F63 3B9;1FAC=1F64 3B9;1FAD=1F65 3B9;1FAE=1F66 3B9;",
    "1FAF=1F67 3B9;1FB2=1F70 3B9;1FB3=3B1 3B9;1FB4=3AC 3B9;1FB6=3B1 342;1FB7=3B1 342 3B9;",
    "1FBC=3B1 3B9;1FBE=3B9;1FC2=1F74 3B9;1FC3=3B7 3B9;1FC4=3AE 3B9;1FC6=3B7 342;1FC7=3B7 342 3B9;",
    "1FCC=3B7 3B9;1FD2=3B9 308 300;1FD3=3B9 308 301;1FD6=3B9 342;1FD7=3B9 308 342;",
    "1FE2=3C5 308 300;1FE3=3C5 308 301;1FE4=3C1 313;1FE6=3C5 342;1FE7=3C5 308 342;1FF2=1F7C 3B9;",
    "1FF3=3C9 3B9;1FF4=3CE 3B9;1FF6=3C9 342;1FF7=3C9 342 3B9;1FFC=3C9 3B9;20A8=72 73;2102=63;",
    "2103=B0 63;2107=25B;2109=B0 66;210B=68;210C=68;210D=68;2110=69;2111=69;2112=6C;2115=6E;",
    "2116=6E 6F;2119=70;211A=71;211B=72;211C=72;211D=72;2120=73 6D;2121=74 65 6C;2122=74 6D;",
    "2124=7A;2128=7A;212C=62;212D=63;2130=65;2131=66;2133=6D;213E=3B3;213F=3C0;2145=64;",
    "3371=68 70 61;3373=61 75;3375=6F 76;3380=70 61;3381=6E 61;3382=3BC 61;3383=6D 61;3384=6B 61;",
    "3385=6B 62;3386=6D 62;3387=67 62;338A=70 66;338B=6E 66;338C=3BC 66;3390=68 7A;3391=6B 68 7A;",
    "3392=6D 68 7A;3393=67 68 7A;3394=74 68 7A;33A9=70 61;33AA=6B 70 61;33AB=6D 70 61;",
    "33AC=67 70 61;33B4=70 76;33B5=6E 76;33B6=3BC 76;33B7=6D 76;33B8=6B 76;33B9=6D 76;33BA=70 77;",
    "33BB=6E 77;33BC=3BC 77;33BD=6D 77;33BE=6B 77;33BF=6D 77;33C0=6B 3C9;33C1=6D 3C9;33C3=62 71;",
    "33C6=63 2215 6B 67;33C7=63 6F 2E;33C8=64 62;33C9=67 79;33CB=68 70;33CD=6B 6B;33CE=6B 6D;",
    "33D7=70 68;33D9=70 70 6D;33DA=70 72;33DC=73 76;33DD=77 62;FB00=66 66;FB01=66 69;FB02=66 6C;",
    "FB03=66 66 69;FB04=66 66 6C;FB05=73 74;FB06=73 74;FB13=574 576;FB14=574 565;FB15=574 56B;",
    "FB16=57E 576;FB17=574 56D;1D400=61;1D401=62;1D402=63;1D403=64;1D404=65;1D405=66;1D406=67;",
    "1D407=68;1D408=69;1D409=6A;1D40A=6B;1D40B=6C;1D40C=6D;1D40D=6E;1D40E=6F;1D40F=70;1D410=71;",
    "1D411=72;1D412=73;1D413=74;1D414=75;1D415=76;1D416=77;1D417=78;1D418=79;1D419=7A;1D434=61;",
    "1D435=62;1D436=63;1D437=64;1D438=65;1D439=66;1D43A=67;1D43B=68;1D43C=69;1D43D=6A;1D43E=6B;",
    "1D43F=6C;1D440=6D;1D441=6E;1D442=6F;1D443=70;1D444=71;1D445=72;1D446=73;1D447=74;1D448=75;",
    "1D449=76;1D44A=77;1D44B=78;1D44C=79;1D44D=7A;1D468=61;1D469=62;1D46A=63;1D46B=64;1D46C=65;",
    "1D46D=66;1D46E=67;1D46F=68;1D470=69;1D471=6A;1D472=6B;1D473=6C;1D474=6D;1D475=6E;1D476=6F;",
    "1D477=70;1D478=71;1D479=72;1D47A=73;1D47B=74;1D47C=75;1D47D=76;1D47E=77;1D47F=78;1D480=79;",
    "1D481=7A;1D49C=61;1D49E=63;1D49F=64;1D4A2=67;1D4A5=6A;1D4A6=6B;1D4A9=6E;1D4AA=6F;1D4AB=70;",
    "1D4AC=71;1D4AE=73;1D4AF=74;1D4B0=75;1D4B1=76;1D4B2=77;1D4B3=78;1D4B4=79;1D4B5=7A;1D4D0=61;",
    "1D4D1=62;1D4D2=63;1D4D3=64;1D4D4=65;1D4D5=66;1D4D6=67;1D4D7=68;1D4D8=69;1D4D9=6A;1D4DA=6B;",
    "1D4DB=6C;1D4DC=6D;1D4DD=6E;1D4DE=6F;1D4DF=70;1D4E0=71;1D4E1=72;1D4E2=73;1D4E3=74;1D4E4=75;",
    "1D4E5=76;1D4E6=77;1D4E7=78;1D4E8=79;1D4E9=7A;1D504=61;1D505=62;1D507=64;1D508=65;1D509=66;",
    "1D50A=67;1D50D=6A;1D50E=6B;1D50F=6C;1D510=6D;1D511=6E;1D512=6F;1D513=70;1D514=71;1D516=73;",
    "1D517=74;1D518=75;1D519=76;1D51A=77;1D51B=78;1D51C=79;1D538=61;1D539=62;1D53B=64;1D53C=65;",
    "1D53D=66;1D53E=67;1D540=69;1D541=6A;1D542=6B;1D543=6C;1D544=6D;1D546=6F;1D54A=73;1D54B=74;",
    "1D54C=75;1D54D=76;1D54E=77;1D54F=78;1D550=79;1D56C=61;1D56D=62;1D56E=63;1D56F=64;1D570=65;",
    "1D571=66;1D572=67;1D573=68;1D574=69;1D575=6A;1D576=6B;1D577=6C;1D578=6D;1D579=6E;1D57A=6F;",
    "1D57B=70;1D57C=71;1D57D=72;1D57E=73;1D57F=74;1D580=75;1D581=76;1D582=77;1D583=78;1D584=79;",
    "1D585=7A;1D5A0=61;1D5A1=62;1D5A2=63;1D5A3=64;1D5A4=65;1D5A5=66;1D5A6=67;1D5A7=68;1D5A8=69;",
    "1D5A9=6A;1D5AA=6B;1D5AB=6C;1D5AC=6D;1D5AD=6E;1D5AE=6F;1D5AF=70;1D5B0=71;1D5B1=72;1D5B2=73;",
    "1D5B3=74;1D5B4=75;1D5B5=76;1D5B6=77;1D5B7=78;1D5B8=79;1D5B9=7A;1D5D4=61;1D5D5=62;1D5D6=63;",
    "1D5D7=64;1D5D8=65;1D5D9=66;1D5DA=67;1D5DB=68;1D5DC=69;1D5DD=6A;1D5DE=6B;1D5DF=6C;1D5E0=6D;",
    "1D5E1=6E;1D5E2=6F;1D5E3=70;1D5E4=71;1D5E5=72;1D5E6=73;1D5E7=74;1D5E8=75;1D5E9=76;1D5EA=77;",
    "1D5EB=78;1D5EC=79;1D5ED=7A;1D608=61;1D609=62;1D60A=63;1D60B=64;1D60C=65;1D60D=66;1D60E=67;",
    "1D60F=68;1D610=69;1D611=6A;1D612=6B;1D613=6C;1D614=6D;1D615=6E;1D616=6F;1D617=70;1D618=71;",
    "1D619=72;1D61A=73;1D61B=74;1D61C=75;1D61D=76;1D61E=77;1D61F=78;1D620=79;1D621=7A;1D63C=61;",
    "1D63D=62;1D63E=63;1D63F=64;1D640=65;1D641=66;1D642=67;1D643=68;1D644=69;1D645=6A;1D646=6B;",
    "1D647=6C;1D648=6D;1D649=6E;1D64A=6F;1D64B=70;1D64C=71;1D64D=72;1D64E=73;1D64F=74;1D650=75;",
    "1D651=76;1D652=77;1D653=78;1D654=79;1D655=7A;1D670=61;1D671=62;1D672=63;1D673=64;1D674=65;",
    "1D675=66;1D676=67;1D677=68;1D678=69;1D679=6A;1D67A=6B;1D67B=6C;1D67C=6D;1D67D=6E;1D67E=6F;",
    "1D67F=70;1D680=71;1D681=72;1D682=73;1D683=74;1D684=75;1D685=76;1D686=77;1D687=78;1D688=79;",
    "1D689=7A;1D6A8=3B1;1D6A9=3B2;1D6AA=3B3;1D6AB=3B4;1D6AC=3B5;1D6AD=3B6;1D6AE=3B7;1D6AF=3B8;",
    "1D6B0=3B9;1D6B1=3BA;1D6B2=3BB;1D6B3=3BC;1D6B4=3BD;1D6B5=3BE;1D6B6=3BF;1D6B7=3C0;1D6B8=3C1;",
    "1D6B9=3B8;1D6BA=3C3;1D6BB=3C4;1D6BC=3C5;1D6BD=3C6;1D6BE=3C7;1D6BF=3C8;1D6C0=3C9;1D6D3=3C3;",
    "1D6E2=3B1;1D6E3=3B2;1D6E4=3B3;1D6E5=3B4;1D6E6=3B5;1D6E7=3B6;1D6E8=3B7;1D6E9=3B8;1D6EA=3B9;",
    "1D6EB=3BA;1D6EC=3BB;1D6ED=3BC;1D6EE=3BD;1D6EF=3BE;1D6F0=3BF;1D6F1=3C0;1D6F2=3C1;1D6F3=3B8;",
    "1D6F4=3C3;1D6F5=3C4;1D6F6=3C5;1D6F7=3C6;1D6F8=3C7;1D6F9=3C8;1D6FA=3C9;1D70D=3C3;1D71C=3B1;",
    "1D71D=3B2;1D71E=3B3;1D71F=3B4;1D720=3B5;1D721=3B6;1D722=3B7;1D723=3B8;1D724=3B9;1D725=3BA;",
    "1D726=3BB;1D727=3BC;1D728=3BD;1D729=3BE;1D72A=3BF;1D72B=3C0;1D72C=3C1;1D72D=3B8;1D72E=3C3;",
    "1D72F=3C4;1D730=3C5;1D731=3C6;1D732=3C7;1D733=3C8;1D734=3C9;1D747=3C3;1D756=3B1;1D757=3B2;",
    "1D758=3B3;1D759=3B4;1D75A=3B5;1D75B=3B6;1D75C=3B7;1D75D=3B8;1D75E=3B9;1D75F=3BA;1D760=3BB;",
    "1D761=3BC;1D762=3BD;1D763=3BE;1D764=3BF;1D765=3C0;1D766=3C1;1D767=3B8;1D768=3C3;1D769=3C4;",
    "1D76A=3C5;1D76B=3C6;1D76C=3C7;1D76D=3C8;1D76E=3C9;1D781=3C3;1D790=3B1;1D791=3B2;1D792=3B3;",
    "1D793=3B4;1D794=3B5;1D795=3B6;1D796=3B7;1D797=3B8;1D798=3B9;1D799=3BA;1D79A=3BB;1D79B=3BC;",
    "1D79C=3BD;1D79D=3BE;1D79E=3BF;1D79F=3C0;1D7A0=3C1;1D7A1=3B8;1D7A2=3C3;1D7A3=3C4;1D7A4=3C5;",
    "1D7A5=3C6;1D7A6=3C7;1D7A7=3C8;1D7A8=3C9;1D7BB=3C3;"]

/-- Characters that no host name may have. -/
def refusedRanges : List (Nat × Nat) := [
  (0x80, 0xA0), (0x340, 0x341), (0x6DD, 0x6DD), (0x70F, 0x70F), (0x1680, 0x1680),
  (0x180E, 0x180E), (0x2000, 0x200F), (0x2028, 0x202F), (0x205F, 0x2063), (0x206A, 0x206F),
  (0x2FF0, 0x2FFB), (0x3000, 0x3000), (0xE000, 0xF8FF), (0xFDD0, 0xFDEF), (0xFEFF, 0xFEFF),
  (0xFFF9, 0xFFFF), (0x1D173, 0x1D17A), (0x1FFFE, 0x1FFFF), (0x2FFFE, 0x2FFFF),
  (0x3FFFE, 0x3FFFF), (0x4FFFE, 0x4FFFF), (0x5FFFE, 0x5FFFF), (0x6FFFE, 0x6FFFF),
  (0x7FFFE, 0x7FFFF), (0x8FFFE, 0x8FFFF), (0x9FFFE, 0x9FFFF), (0xAFFFE, 0xAFFFF),
  (0xBFFFE, 0xBFFFF), (0xCFFFE, 0xCFFFF), (0xDFFFE, 0xDFFFF), (0xE0001, 0xE0001),
  (0xE0020, 0xE007F), (0xEFFFE, 0x10FFFF)]

/-- Characters written from right to left. -/
def rightToLeftRanges : List (Nat × Nat) := [
  (0x5BE, 0x5BE), (0x5C0, 0x5C0), (0x5C3, 0x5C3), (0x5D0, 0x5EA), (0x5F0, 0x5F4), (0x61B, 0x61B),
  (0x61F, 0x61F), (0x621, 0x63A), (0x640, 0x64A), (0x66D, 0x66F), (0x671, 0x6D5), (0x6DD, 0x6DD),
  (0x6E5, 0x6E6), (0x6FA, 0x6FE), (0x700, 0x70D), (0x710, 0x710), (0x712, 0x72C), (0x780, 0x7A5),
  (0x7B1, 0x7B1), (0x200F, 0x200F), (0xFB1D, 0xFB1D), (0xFB1F, 0xFB28), (0xFB2A, 0xFB36),
  (0xFB38, 0xFB3C), (0xFB3E, 0xFB3E), (0xFB40, 0xFB41), (0xFB43, 0xFB44), (0xFB46, 0xFBB1),
  (0xFBD3, 0xFD3D), (0xFD50, 0xFD8F), (0xFD92, 0xFDC7), (0xFDF0, 0xFDFC), (0xFE70, 0xFE74),
  (0xFE76, 0xFEFC)]

/-- Characters written from left to right. -/
def leftToRightRanges : List (Nat × Nat) := [
  (0x41, 0x5A), (0x61, 0x7A), (0xAA, 0xAA), (0xB5, 0xB5), (0xBA, 0xBA), (0xC0, 0xD6),
  (0xD8, 0xF6), (0xF8, 0x220), (0x222, 0x233), (0x250, 0x2AD), (0x2B0, 0x2B8), (0x2BB, 0x2C1),
  (0x2D0, 0x2D1), (0x2E0, 0x2E4), (0x2EE, 0x2EE), (0x37A, 0x37A), (0x386, 0x386), (0x388, 0x38A),
  (0x38C, 0x38C), (0x38E, 0x3A1), (0x3A3, 0x3CE), (0x3D0, 0x3F5), (0x400, 0x482), (0x48A, 0x4CE),
  (0x4D0, 0x4F5), (0x4F8, 0x4F9), (0x500, 0x50F), (0x531, 0x556), (0x559, 0x55F), (0x561, 0x587),
  (0x589, 0x589), (0x903, 0x903), (0x905, 0x939), (0x93D, 0x940), (0x949, 0x94C), (0x950, 0x950),
  (0x958, 0x961), (0x964, 0x970), (0x982, 0x983), (0x985, 0x98C), (0x98F, 0x990), (0x993, 0x9A8),
  (0x9AA, 0x9B0), (0x9B2, 0x9B2), (0x9B6, 0x9B9), (0x9BE, 0x9C0), (0x9C7, 0x9C8), (0x9CB, 0x9CC),
  (0x9D7, 0x9D7), (0x9DC, 0x9DD), (0x9DF, 0x9E1), (0x9E6, 0x9F1), (0x9F4, 0x9FA), (0xA05, 0xA0A),
  (0xA0F, 0xA10), (0xA13, 0xA28), (0xA2A, 0xA30), (0xA32, 0xA33), (0xA35, 0xA36), (0xA38, 0xA39),
  (0xA3E, 0xA40), (0xA59, 0xA5C), (0xA5E, 0xA5E), (0xA66, 0xA6F), (0xA72, 0xA74), (0xA83, 0xA83),
  (0xA85, 0xA8B), (0xA8D, 0xA8D), (0xA8F, 0xA91), (0xA93, 0xAA8), (0xAAA, 0xAB0), (0xAB2, 0xAB3),
  (0xAB5, 0xAB9), (0xABD, 0xAC0), (0xAC9, 0xAC9), (0xACB, 0xACC), (0xAD0, 0xAD0), (0xAE0, 0xAE0),
  (0xAE6, 0xAEF), (0xB02, 0xB03), (0xB05, 0xB0C), (0xB0F, 0xB10), (0xB13, 0xB28), (0xB2A, 0xB30),
  (0xB32, 0xB33), (0xB36, 0xB39), (0xB3D, 0xB3E), (0xB40, 0xB40), (0xB47, 0xB48), (0xB4B, 0xB4C),
  (0xB57, 0xB57), (0xB5C, 0xB5D), (0xB5F, 0xB61), (0xB66, 0xB70), (0xB83, 0xB83), (0xB85, 0xB8A),
  (0xB8E, 0xB90), (0xB92, 0xB95), (0xB99, 0xB9A), (0xB9C, 0xB9C), (0xB9E, 0xB9F), (0xBA3, 0xBA4),
  (0xBA8, 0xBAA), (0xBAE, 0xBB5), (0xBB7, 0xBB9), (0xBBE, 0xBBF), (0xBC1, 0xBC2), (0xBC6, 0xBC8),
  (0xBCA, 0xBCC), (0xBD7, 0xBD7), (0xBE7, 0xBF2), (0xC01, 0xC03), (0xC05, 0xC0C), (0xC0E, 0xC10),
  (0xC12, 0xC28), (0xC2A, 0xC33), (0xC35, 0xC39), (0xC41, 0xC44), (0xC60, 0xC61), (0xC66, 0xC6F),
  (0xC82, 0xC83), (0xC85, 0xC8C), (0xC8E, 0xC90), (0xC92, 0xCA8), (0xCAA, 0xCB3), (0xCB5, 0xCB9),
  (0xCBE, 0xCBE), (0xCC0, 0xCC4), (0xCC7, 0xCC8), (0xCCA, 0xCCB), (0xCD5, 0xCD6), (0xCDE, 0xCDE),
  (0xCE0, 0xCE1), (0xCE6, 0xCEF), (0xD02, 0xD03), (0xD05, 0xD0C), (0xD0E, 0xD10), (0xD12, 0xD28),
  (0xD2A, 0xD39), (0xD3E, 0xD40), (0xD46, 0xD48), (0xD4A, 0xD4C), (0xD57, 0xD57), (0xD60, 0xD61),
  (0xD66, 0xD6F), (0xD82, 0xD83), (0xD85, 0xD96), (0xD9A, 0xDB1), (0xDB3, 0xDBB), (0xDBD, 0xDBD),
  (0xDC0, 0xDC6), (0xDCF, 0xDD1), (0xDD8, 0xDDF), (0xDF2, 0xDF4), (0xE01, 0xE30), (0xE32, 0xE33),
  (0xE40, 0xE46), (0xE4F, 0xE5B), (0xE81, 0xE82), (0xE84, 0xE84), (0xE87, 0xE88), (0xE8A, 0xE8A),
  (0xE8D, 0xE8D), (0xE94, 0xE97), (0xE99, 0xE9F), (0xEA1, 0xEA3), (0xEA5, 0xEA5), (0xEA7, 0xEA7),
  (0xEAA, 0xEAB), (0xEAD, 0xEB0), (0xEB2, 0xEB3), (0xEBD, 0xEBD), (0xEC0, 0xEC4), (0xEC6, 0xEC6),
  (0xED0, 0xED9), (0xEDC, 0xEDD), (0xF00, 0xF17), (0xF1A, 0xF34), (0xF36, 0xF36), (0xF38, 0xF38),
  (0xF3E, 0xF47), (0xF49, 0xF6A), (0xF7F, 0xF7F), (0xF85, 0xF85), (0xF88, 0xF8B), (0xFBE, 0xFC5),
  (0xFC7, 0xFCC), (0xFCF, 0xFCF), (0x1000, 0x1021), (0x1023, 0x1027), (0x1029, 0x102A),
  (0x102C, 0x102C), (0x1031, 0x1031), (0x1038, 0x1038), (0x1040, 0x1057), (0x10A0, 0x10C5),
  (0x10D0, 0x10F8), (0x10FB, 0x10FB), (0x1100, 0x1159), (0x115F, 0x11A2), (0x11A8, 0x11F9),
  (0x1200, 0x1206), (0x1208, 0x1246), (0x1248, 0x1248), (0x124A, 0x124D), (0x1250, 0x1256),
  (0x1258, 0x1258), (0x125A, 0x125D), (0x1260, 0x1286), (0x1288, 0x1288), (0x128A, 0x128D),
  (0x1290, 0x12AE), (0x12B0, 0x12B0), (0x12B2, 0x12B5), (0x12B8, 0x12BE), (0x12C0, 0x12C0),
  (0x12C2, 0x12C5), (0x12C8, 0x12CE), (0x12D0, 0x12D6), (0x12D8, 0x12EE), (0x12F0, 0x130E),
  (0x1310, 0x1310), (0x1312, 0x1315), (0x1318, 0x131E), (0x1320, 0x1346), (0x1348, 0x135A),
  (0x1361, 0x137C), (0x13A0, 0x13F4), (0x1401, 0x1676), (0x1681, 0x169A), (0x16A0, 0x16F0),
  (0x1700, 0x170C), (0x170E, 0x1711), (0x1720, 0x1731), (0x1735, 0x1736), (0x1740, 0x1751),
  (0x1760, 0x176C), (0x176E, 0x1770), (0x1780, 0x17B6), (0x17BE, 0x17C5), (0x17C7, 0x17C8),
  (0x17D4, 0x17DA), (0x17DC, 0x17DC), (0x17E0, 0x17E9), (0x1810, 0x1819), (0x1820, 0x1877),
  (0x1880, 0x18A8), (0x1E00, 0x1E9B), (0x1EA0, 0x1EF9), (0x1F00, 0x1F15), (0x1F18, 0x1F1D),
  (0x1F20, 0x1F45), (0x1F48, 0x1F4D), (0x1F50, 0x1F57), (0x1F59, 0x1F59), (0x1F5B, 0x1F5B),
  (0x1F5D, 0x1F5D), (0x1F5F, 0x1F7D), (0x1F80, 0x1FB4), (0x1FB6, 0x1FBC), (0x1FBE, 0x1FBE),
  (0x1FC2, 0x1FC4), (0x1FC6, 0x1FCC), (0x1FD0, 0x1FD3), (0x1FD6, 0x1FDB), (0x1FE0, 0x1FEC),
  (0x1FF2, 0x1FF4), (0x1FF6, 0x1FFC), (0x200E, 0x200E), (0x2071, 0x2071), (0x207F, 0x207F),
  (0x2102, 0x2102), (0x2107, 0x2107), (0x210A, 0x2113), (0x2115, 0x2115), (0x2119, 0x211D),
  (0x2124, 0x2124), (0x2126, 0x2126), (0x2128, 0x2128), (0x212A, 0x212D), (0x212F, 0x2131),
  (0x2133, 0x2139), (0x213D, 0x213F), (0x2145, 0x2149), (0x2160, 0x2183), (0x2336, 0x237A),
  (0x2395, 0x2395), (0x249C, 0x24E9), (0x3005, 0x3007), (0x3021, 0x3029), (0x3031, 0x3035),
  (0x3038, 0x303C), (0x3041, 0x3096), (0x309D, 0x309F), (0x30A1, 0x30FA), (0x30FC, 0x30FF),
  (0x3105, 0x312C), (0x3131, 0x318E), (0x3190, 0x31B7), (0x31F0, 0x321C), (0x3220, 0x3243),
  (0x3260, 0x327B), (0x327F, 0x32B0), (0x32C0, 0x32CB), (0x32D0, 0x32FE), (0x3300, 0x3376),
  (0x337B, 0x33DD), (0x33E0, 0x33FE), (0x3400, 0x4DB5), (0x4E00, 0x9FA5), (0xA000, 0xA48C),
  (0xAC00, 0xD7A3), (0xE000, 0xFA2D), (0xFA30, 0xFA6A), (0xFB00, 0xFB06), (0xFB13, 0xFB17),
  (0xFF21, 0xFF3A), (0xFF41, 0xFF5A), (0xFF66, 0xFFBE), (0xFFC2, 0xFFC7), (0xFFCA, 0xFFCF),
  (0xFFD2, 0xFFD7), (0xFFDA, 0xFFDC), (0x10300, 0x1031E), (0x10320, 0x10323), (0x10330, 0x1034A),
  (0x10400, 0x10425), (0x10428, 0x1044D), (0x1D000, 0x1D0F5), (0x1D100, 0x1D126),
  (0x1D12A, 0x1D166), (0x1D16A, 0x1D172), (0x1D183, 0x1D184), (0x1D18C, 0x1D1A9),
  (0x1D1AE, 0x1D1DD), (0x1D400, 0x1D454), (0x1D456, 0x1D49C), (0x1D49E, 0x1D49F),
  (0x1D4A2, 0x1D4A2), (0x1D4A5, 0x1D4A6), (0x1D4A9, 0x1D4AC), (0x1D4AE, 0x1D4B9),
  (0x1D4BB, 0x1D4BB), (0x1D4BD, 0x1D4C0), (0x1D4C2, 0x1D4C3), (0x1D4C5, 0x1D505),
  (0x1D507, 0x1D50A), (0x1D50D, 0x1D514), (0x1D516, 0x1D51C), (0x1D51E, 0x1D539),
  (0x1D53B, 0x1D53E), (0x1D540, 0x1D544), (0x1D546, 0x1D546), (0x1D54A, 0x1D550),
  (0x1D552, 0x1D6A3), (0x1D6A8, 0x1D7C9), (0x20000, 0x2A6D6), (0x2F800, 0x2FA1D),
  (0xF0000, 0xFFFFD), (0x100000, 0x10FFFD)]

/-- Characters whose compatibility form has a character that ends a part of a URL. -/
def delimiterLookalikes : List Nat := [
  0x2047, 0x2048, 0x2049, 0x2100, 0x2101, 0x2105, 0x2106, 0x2A74, 0xFE13, 0xFE16, 0xFE55, 0xFE56,
  0xFE5F, 0xFE6B, 0xFF03, 0xFF0F, 0xFF1A, 0xFF1F, 0xFF20]

end MarkdownSite.Url
