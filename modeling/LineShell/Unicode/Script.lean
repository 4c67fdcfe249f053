import LineShell.Unicode.Category

/-!
# Scripts

Every code point has one script; the script extensions of a script are the code points that are
used with it.  `scriptPatches` lists, for each script that has any, the code points at which the
two differ.
-/

namespace LineShell.Unicode

/-- The names of the scripts. -/
def scriptNames : String :=
  "adlm adlam; aghb caucasianalbanian; ahom; arab arabic; armi imperialaramaic; armn armenian;
  avst avestan; bali balinese; bamu bamum; bass bassavah; batk batak; beng bengali;
  bhks bhaiksuki; bopo bopomofo; brah brahmi; brai braille; bugi buginese; buhd buhid;
  cakm chakma; cans canadianaboriginal; cari carian; cham; cher cherokee; chrs chorasmian;
  copt coptic qaac; cpmn cyprominoan; cprt cypriot; cyrl cyrillic; deva devanagari;
  diak divesakuru; dogr dogra; dsrt deseret; dupl duployan; egyp egyptianhieroglyphs;
  elba elbasan; elym elymaic; ethi ethiopic; geor georgian; glag glagolitic; gong gunjalagondi;
  gonm masaramgondi; goth gothic; gran grantha; grek greek; gujr gujarati; guru gurmukhi;
  hang hangul; hani han; hano hanunoo; hatr hatran; hebr hebrew; hira hiragana;
  hluw anatolianhieroglyphs; hmng pahawhhmong; hmnp nyiakengpuachuehmong; hung oldhungarian;
  ital olditalic; java javanese; kali kayahli; kana katakana; kawi; khar kharoshthi; khmr khmer;
  khoj khojki; kits khitansmallscript; knda kannada; kthi kaithi; lana taitham; laoo lao;
  latn latin; lepc lepcha; limb limbu; lina lineara; linb linearb; lisu; lyci lycian;
  lydi lydian; mahj mahajani; maka makasar; mand mandaic; mani manichaean; marc marchen;
  medf medefaidrin; mend mendekikakui; merc meroiticcursive; mero meroitichieroglyphs;
  mlym malayalam; modi; mong mongolian; mroo mro; mtei meeteimayek; mult multani; mymr myanmar;
  nagm nagmundari; nand nandinagari; narb oldnortharabian; nbat nabataean; newa; nkoo nko;
  nshu nushu; ogam ogham; olck olchiki; orkh oldturkic; orya oriya; osge osage; osma osmanya;
  ougr olduyghur; palm palmyrene; pauc paucinhau; perm oldpermic; phag phagspa;
  phli inscriptionalpahlavi; phlp psalterpahlavi; phnx phoenician; plrd miao;
  prti inscriptionalparthian; rjng rejang; rohg hanifirohingya; runr runic; samr samaritan;
  sarb oldsoutharabian; saur saurashtra; sgnw signwriting; shaw shavian; shrd sharada;
  sidd siddham; sind khudawadi; sinh sinhala; sogd sogdian; sogo oldsogdian; sora sorasompeng;
  soyo soyombo; sund sundanese; sylo sylotinagri; syrc syriac; tagb tagbanwa; takr takri;
  tale taile; talu newtailue; taml tamil; tang tangut; tavt taiviet; telu telugu; tfng tifinagh;
  tglg tagalog; thaa thaana; thai; tibt tibetan; tirh tirhuta; tnsa tangsa; toto; ugar ugaritic;
  vaii vai; vith vithkuqi; wara warangciti; wcho wancho; xpeo oldpersian; xsux cuneiform;
  yezi yezidi; yiii yi; zanb zanabazarsquare; zinh inherited qaai; zyyy common; zzzz unknown;
  hrkt katakanaorhiragana"

/-- The scripts of the code points from zero on, as lengths of runs. -/
def scriptTable : String :=
  "1t zyyy q latn 6 zyyy q latn 1b zyyy 1 latn f zyyy 1 latn 5 zyyy n latn 1 zyyy v latn 1 zyyy
  ch latn 13 zyyy 5 latn 5 zyyy 2 bopo k zyyy 34 zinh 4 grek 1 zyyy 3 grek 2 zzzz 4 grek 1 zyyy
  1 grek 4 zzzz 1 grek 1 zyyy 1 grek 1 zyyy 3 grek 1 zzzz 1 grek 1 zzzz k grek 1 zzzz 1r grek e
  copt g grek 3p cyrl 2 zinh 4p cyrl 1 zzzz 12 armn 2 zzzz 1e armn 2 zzzz 3 armn 1 zzzz 1j hebr
  8 zzzz r hebr 4 zzzz 6 hebr b zzzz 5 arab 1 zyyy 6 arab 1 zyyy e arab 1 zyyy 3 arab 1 zyyy w
  arab 1 zyyy a arab b zinh q arab 1 zinh 30 arab 1 zyyy y arab e syrc 1 zzzz 1o syrc 2 zzzz 3
  syrc 1c arab 1e thaa e zzzz 1n nkoo 2 zzzz 3 nkoo 1a samr 2 zzzz f samr 1 zzzz s mand 2 zzzz 1
  mand 1 zzzz b syrc 5 zzzz v arab 1 zzzz 2 arab 6 zzzz 22 arab 1 zyyy t arab 29 deva 4 zinh f
  deva 2 zyyy q deva 4 beng 1 zzzz 8 beng 2 zzzz 2 beng 2 zzzz m beng 1 zzzz 7 beng 1 zzzz 1
  beng 3 zzzz 4 beng 2 zzzz 9 beng 2 zzzz 2 beng 2 zzzz 4 beng 8 zzzz 1 beng 4 zzzz 2 beng 1
  zzzz 5 beng 2 zzzz p beng 2 zzzz 3 guru 1 zzzz 6 guru 4 zzzz 2 guru 2 zzzz m guru 1 zzzz 7
  guru 1 zzzz 2 guru 1 zzzz 2 guru 1 zzzz 2 guru 2 zzzz 1 guru 1 zzzz 5 guru 4 zzzz 2 guru 2
  zzzz 3 guru 3 zzzz 1 guru 7 zzzz 4 guru 1 zzzz 1 guru 7 zzzz h guru a zzzz 3 gujr 1 zzzz 9
  gujr 1 zzzz 3 gujr 1 zzzz m gujr 1 zzzz 7 gujr 1 zzzz 2 gujr 1 zzzz 5 gujr 2 zzzz a gujr 1
  zzzz 3 gujr 1 zzzz 3 gujr 2 zzzz 1 gujr f zzzz 4 gujr 2 zzzz c gujr 7 zzzz 7 gujr 1 zzzz 3
  orya 1 zzzz 8 orya 2 zzzz 2 orya 2 zzzz m orya 1 zzzz 7 orya 1 zzzz 2 orya 1 zzzz 5 orya 2
  zzzz 9 orya 2 zzzz 2 orya 2 zzzz 3 orya 7 zzzz 3 orya 4 zzzz 2 orya 1 zzzz 5 orya 2 zzzz i
  orya a zzzz 2 taml 1 zzzz 6 taml 3 zzzz 3 taml 1 zzzz 4 taml 3 zzzz 2 taml 1 zzzz 1 taml 1
  zzzz 2 taml 3 zzzz 2 taml 3 zzzz 3 taml 3 zzzz c taml 4 zzzz 5 taml 3 zzzz 3 taml 1 zzzz 4
  taml 2 zzzz 1 taml 6 zzzz 1 taml e zzzz l taml 5 zzzz d telu 1 zzzz 3 telu 1 zzzz n telu 1
  zzzz g telu 2 zzzz 9 telu 1 zzzz 3 telu 1 zzzz 4 telu 7 zzzz 2 telu 1 zzzz 3 telu 2 zzzz 1
  telu 2 zzzz 4 telu 2 zzzz a telu 7 zzzz 9 telu d knda 1 zzzz 3 knda 1 zzzz n knda 1 zzzz a
  knda 1 zzzz 5 knda 2 zzzz 9 knda 1 zzzz 3 knda 1 zzzz 4 knda 7 zzzz 2 knda 6 zzzz 2 knda 1
  zzzz 4 knda 2 zzzz a knda 1 zzzz 3 knda c zzzz d mlym 1 zzzz 3 mlym 1 zzzz 1f mlym 1 zzzz 3
  mlym 1 zzzz 6 mlym 4 zzzz g mlym 2 zzzz q mlym 1 zzzz 3 sinh 1 zzzz i sinh 3 zzzz o sinh 1
  zzzz 9 sinh 1 zzzz 1 sinh 2 zzzz 7 sinh 3 zzzz 1 sinh 4 zzzz 6 sinh 1 zzzz 1 sinh 1 zzzz 8
  sinh 6 zzzz a sinh 2 zzzz 3 sinh c zzzz 1m thai 4 zzzz 1 zyyy s thai 11 zzzz 2 laoo 1 zzzz 1
  laoo 1 zzzz 5 laoo 1 zzzz o laoo 1 zzzz 1 laoo 1 zzzz n laoo 2 zzzz 5 laoo 1 zzzz 1 laoo 1
  zzzz 7 laoo 1 zzzz a laoo 2 zzzz 4 laoo w zzzz 20 tibt 1 zzzz 10 tibt 4 zzzz 13 tibt 1 zzzz 10
  tibt 1 zzzz f tibt 1 zzzz 7 tibt 4 zyyy 2 tibt 11 zzzz 4g mymr 12 geor 1 zzzz 1 geor 5 zzzz 1
  geor 2 zzzz 17 geor 1 zyyy 4 geor 74 hang 21 ethi 1 zzzz 4 ethi 2 zzzz 7 ethi 1 zzzz 1 ethi 1
  zzzz 4 ethi 2 zzzz 15 ethi 1 zzzz 4 ethi 2 zzzz x ethi 1 zzzz 4 ethi 2 zzzz 7 ethi 1 zzzz 1
  ethi 1 zzzz 4 ethi 2 zzzz f ethi 1 zzzz 1l ethi 1 zzzz 4 ethi 2 zzzz 1v ethi 2 zzzz w ethi 3
  zzzz q ethi 6 zzzz 2e cher 2 zzzz 6 cher 2 zzzz hs cans t ogam 3 zzzz 23 runr 3 zyyy b runr 7
  zzzz m tglg 9 zzzz 1 tglg l hano 2 zyyy 9 zzzz k buhd c zzzz d tagb 1 zzzz 3 tagb 1 zzzz 2
  tagb c zzzz 2m khmr 2 zzzz a khmr 6 zzzz a khmr 6 zzzz 2 mong 2 zyyy 1 mong 1 zyyy k mong 6
  zzzz 2h mong 7 zzzz 17 mong 5 zzzz 1y cans a zzzz v limb 1 zzzz c limb 4 zzzz c limb 4 zzzz 1
  limb 3 zzzz c limb u tale 2 zzzz 5 tale b zzzz 18 talu 4 zzzz q talu 6 zzzz b talu 3 zzzz 2
  talu w khmr s bugi 2 zzzz 2 bugi 1r lana 1 zzzz t lana 2 zzzz b lana 6 zzzz a lana 6 zzzz e
  lana 2 zzzz v zinh 1d zzzz 25 bali 3 zzzz 1b bali 1 zzzz 1s sund 1g batk 8 zzzz 4 batk 1k lepc
  3 zzzz f lepc 3 zzzz 3 lepc 1c olck 9 cyrl 7 zzzz 17 geor 2 zzzz 3 geor 8 sund 8 zzzz 3 zinh 1
  zyyy d zinh 1 zyyy 7 zinh 4 zyyy 1 zinh 6 zyyy 1 zinh 3 zyyy 2 zinh 1 zyyy 5 zzzz 12 latn 5
  grek 1 cyrl 1d latn 5 grek 4 latn 5 grek d latn 1 cyrl 1y latn 1 grek 1s zinh 74 latn m grek 2
  zzzz 6 grek 2 zzzz 12 grek 2 zzzz 6 grek 2 zzzz 8 grek 1 zzzz 1 grek 1 zzzz 1 grek 1 zzzz 1
  grek 1 zzzz v grek 2 zzzz 1h grek 1 zzzz f grek 1 zzzz e grek 2 zzzz 6 grek 1 zzzz j grek 2
  zzzz 3 grek 1 zzzz 9 grek 1 zzzz c zyyy 2 zinh 2f zyyy 1 zzzz b zyyy 1 latn 2 zzzz b zyyy 1
  latn f zyyy 1 zzzz d latn 3 zzzz x zyyy f zzzz x zinh f zzzz 12 zyyy 1 grek 3 zyyy 2 latn 6
  zyyy 1 latn r zyyy 1 latn h zyyy 15 latn 3 zyyy 4 zzzz if zyyy p zzzz b zyyy l zzzz ps zyyy 74
  brai hg zyyy 2 zzzz w zyyy 1 zzzz 2x zyyy 2o glag w latn 38 copt 5 zzzz 7 copt 12 geor 1 zzzz
  1 geor 5 zzzz 1 geor 2 zzzz 1k tfng 7 zzzz 2 tfng e zzzz 1 tfng n ethi 9 zzzz 7 ethi 1 zzzz 7
  ethi 1 zzzz 7 ethi 1 zzzz 7 ethi 1 zzzz 7 ethi 1 zzzz 7 ethi 1 zzzz 7 ethi 1 zzzz 7 ethi 1
  zzzz w cyrl 2m zyyy y zzzz q hani 1 zzzz 2h hani c zzzz 5y hani q zzzz c zyyy 4 zzzz 5 zyyy 1
  hani 1 zyyy 1 hani p zyyy 9 hani 4 zinh 2 hang 8 zyyy 4 hani 4 zyyy 1 zzzz 2e hira 2 zzzz 2
  zinh 2 zyyy 3 hira 1 zyyy 2i kana 2 zyyy 3 kana 5 zzzz 17 bopo 1 zzzz 2m hang 1 zzzz g zyyy w
  bopo 10 zyyy c zzzz g kana v hang 1 zzzz 1s zyyy v hang 29 zyyy 1b kana 1 zyyy 2g kana 4o zyyy
  534 hani 1s zyyy g74 hani wd yiii 3 zzzz 1j yiii 9 zzzz 1c lisu 8c vaii k zzzz 2o cyrl 2g bamu
  8 zzzz y zyyy 2u latn 3 zyyy 1s latn 5 zzzz 2 latn 1 zzzz 1 latn 1 zzzz 5 latn o zzzz e latn
  19 sylo 3 zzzz a zyyy 6 zzzz 1k phag 8 zzzz 1y saur 8 zzzz c saur 6 zzzz w deva 1a kali 1 zyyy
  1 kali 10 rjng b zzzz 1 rjng t hang 3 zzzz 26 java 1 zzzz 1 zyyy a java 4 zzzz 2 java v mymr 1
  zzzz 1j cham 9 zzzz e cham 2 zzzz a cham 2 zzzz 4 cham w mymr 1v tavt o zzzz 5 tavt n mtei a
  zzzz 6 ethi 2 zzzz 6 ethi 2 zzzz 6 ethi 9 zzzz 7 ethi 1 zzzz 7 ethi 1 zzzz 17 latn 1 zyyy 9
  latn 1 grek 4 latn 2 zyyy 4 zzzz 28 cher 1a mtei 2 zzzz a mtei 6 zzzz 8mc hang c zzzz n hang 4
  zzzz 1d hang 6is zzzz a6 hani 2 zzzz 2y hani 12 zzzz 7 latn c zzzz 5 armn 5 zzzz q hebr 1 zzzz
  5 hebr 1 zzzz 1 hebr 1 zzzz 2 hebr 1 zzzz 2 hebr 1 zzzz a hebr 37 arab g zzzz a3 arab 2 zyyy
  28 arab 2 zzzz 1i arab 7 zzzz 1 arab w zzzz g arab g zinh a zyyy 6 zzzz e zinh 2 cyrl z zyyy 1
  zzzz j zyyy 1 zzzz 4 zyyy 4 zzzz 5 arab 1 zzzz 3r arab 2 zzzz 1 zyyy 1 zzzz w zyyy q latn 6
  zyyy q latn b zyyy a kana 1 zyyy 19 kana 2 zyyy v hang 3 zzzz 6 hang 2 zzzz 6 hang 2 zzzz 6
  hang 2 zzzz 3 hang 3 zzzz 7 zyyy 1 zzzz 7 zyyy a zzzz 5 zyyy 2 zzzz c linb 1 zzzz q linb 1
  zzzz j linb 1 zzzz 2 linb 1 zzzz f linb 2 zzzz e linb y zzzz 3f linb 5 zzzz 3 zyyy 4 zzzz 19
  zyyy 3 zzzz 9 zyyy 27 grek 1 zzzz d zyyy 3 zzzz 1 grek 1b zzzz 19 zyyy 1 zinh 3m zzzz t lyci 3
  zzzz 1d cari f zzzz 1 zinh r zyyy 4 zzzz 10 ital 9 zzzz 3 ital r goth 5 zzzz 17 perm 5 zzzz u
  ugar 1 zzzz 1 ugar 10 xpeo 4 zzzz e xpeo 16 zzzz 28 dsrt 1c shaw u osma 2 zzzz a osma 6 zzzz
  10 osge 4 zzzz 10 osge 4 zzzz 14 elba 8 zzzz 1g aghb b zzzz 1 aghb b vith 1 zzzz f vith 1 zzzz
  7 vith 1 zzzz 2 vith 1 zzzz b vith 1 zzzz f vith 1 zzzz 7 vith 1 zzzz 2 vith 1v zzzz 8n lina 9
  zzzz m lina a zzzz 8 lina o zzzz 6 latn 1 zzzz 16 latn 1 zzzz 9 latn 1x zzzz 6 cprt 2 zzzz 1
  cprt 1 zzzz 18 cprt 1 zzzz 2 cprt 3 zzzz 1 cprt 2 zzzz 1 cprt m armi 1 zzzz 9 armi w palm v
  nbat 8 zzzz 9 nbat 1c zzzz j hatr 1 zzzz 2 hatr 5 zzzz 5 hatr s phnx 3 zzzz 1 phnx q lydi 5
  zzzz 1 lydi 1s zzzz w mero o merc 4 zzzz k merc 2 zzzz 1a merc 4 khar 1 zzzz 2 khar 5 zzzz 8
  khar 1 zzzz 3 khar 1 zzzz t khar 2 zzzz 3 khar 4 zzzz a khar 7 zzzz 9 khar 7 zzzz w sarb w
  narb w zzzz 13 mani 4 zzzz c mani 9 zzzz 1i avst 3 zzzz 7 avst m prti 2 zzzz 8 prti j phli 5
  zzzz 8 phli i phlp 7 zzzz 4 phlp c zzzz 7 phlp 28 zzzz 21 orkh 1j zzzz 1f hung d zzzz 1f hung
  7 zzzz 6 hung 14 rohg 8 zzzz a rohg 86 zzzz v arab 1 zzzz 16 yezi 1 zzzz 3 yezi 2 zzzz 2 yezi
  23 zzzz 3 arab 14 sogo 8 zzzz 16 sogd m zzzz q ougr 12 zzzz s chrs k zzzz n elym 9 zzzz 26
  brah 4 zzzz 10 brah 9 zzzz 1 brah 1v kthi a zzzz 1 kthi 2 zzzz p sora 7 zzzz a sora 6 zzzz 1h
  cakm 1 zzzz i cakm 8 zzzz 13 mahj 9 zzzz 2o shrd 1 zzzz k sinh b zzzz i khoj 1 zzzz 1b khoj 1q
  zzzz 7 mult 1 zzzz 1 mult 1 zzzz 4 mult 1 zzzz f mult 1 zzzz b mult 6 zzzz 1n sind 5 zzzz a
  sind 6 zzzz 4 gran 1 zzzz 8 gran 2 zzzz 2 gran 2 zzzz m gran 1 zzzz 7 gran 1 zzzz 2 gran 1
  zzzz 5 gran 1 zzzz 1 zinh 9 gran 2 zzzz 2 gran 2 zzzz 3 gran 2 zzzz 1 gran 6 zzzz 1 gran 5
  zzzz 7 gran 2 zzzz 7 gran 3 zzzz 5 gran 3v zzzz 2k newa 1 zzzz 5 newa u zzzz 20 tirh 8 zzzz a
  tirh 4m zzzz 1i sidd 2 zzzz 12 sidd y zzzz 1x modi b zzzz a modi 6 zzzz d mong j zzzz 1m takr
  6 zzzz a takr 1i zzzz r ahom 2 zzzz f ahom 4 zzzz n ahom 55 zzzz 1o dogr 2s zzzz 2b wara c
  zzzz 1 wara 7 diak 2 zzzz 1 diak 2 zzzz 8 diak 1 zzzz 2 diak 1 zzzz u diak 1 zzzz 2 diak 2
  zzzz c diak 9 zzzz a diak 1y zzzz 8 nand 2 zzzz 1a nand 2 zzzz b nand r zzzz 20 zanb 8 zzzz 2b
  soyo d zzzz g cans 1l pauc 7 zzzz a deva 6u zzzz 9 bhks 1 zzzz 19 bhks 1 zzzz e bhks a zzzz t
  bhks 3 zzzz w marc 2 zzzz m marc 1 zzzz e marc 21 zzzz 7 gonm 1 zzzz 2 gonm 1 zzzz 18 gonm 3
  zzzz 1 gonm 1 zzzz 2 gonm 1 zzzz 9 gonm 8 zzzz a gonm 6 zzzz 6 gong 1 zzzz 2 gong 1 zzzz 11
  gong 1 zzzz 2 gong 1 zzzz 6 gong 7 zzzz a gong 8m zzzz p maka 7 zzzz h kawi 1 zzzz 15 kawi 3
  zzzz s kawi 2e zzzz 1 lisu f zzzz 1e taml d zzzz 1 taml pm xsux 2u zzzz 33 xsux 1 zzzz 5 xsux
  b zzzz 5g xsux 218 zzzz 2r cpmn d zzzz uu egyp 33e zzzz g7 hluw 6nt zzzz ft bamu 7 zzzz v mroo
  1 zzzz a mroo 4 zzzz 2 mroo 27 tnsa 1 zzzz a tnsa 6 zzzz u bass 2 zzzz 6 bass a zzzz 1y hmng a
  zzzz a hmng 1 zzzz 7 hmng 1 zzzz l hmng 5 zzzz j hmng j4 zzzz 2j medf 2t zzzz 23 plrd 4 zzzz
  1l plrd 7 zzzz h plrd 1s zzzz 1 tang 1 nshu 2 hani 1 kits b zzzz 2 hani e zzzz 4qg tang 8 zzzz
  lc tang d2 kits 16 zzzz 9 tang 6w7 zzzz 4 kana 1 zzzz 7 kana 1 zzzz 2 kana 1 zzzz 1 kana 7z
  hira 3 kana f zzzz 1 hira t zzzz 3 hira 2 zzzz 1 kana e zzzz 4 kana 8 zzzz b0 nshu 1s4 zzzz 2z
  dupl 5 zzzz d dupl 3 zzzz 9 dupl 7 zzzz a dupl 2 zzzz 4 dupl 4 zyyy 3mk zzzz 1a zinh 2 zzzz n
  zinh 9 zzzz 38 zyyy 1o zzzz 6u zyyy a zzzz 13 zyyy 2 zzzz 1q zyyy 3 zinh h zyyy 8 zinh 2 zyyy
  7 zinh u zyyy 4 zinh 1p zyyy l zzzz 1y grek 3e zzzz k zyyy c zzzz k zyyy c zzzz 2f zyyy 9 zzzz
  p zyyy 3r zzzz 2d zyyy 1 zzzz 1z zyyy 1 zzzz 2 zyyy 2 zzzz 1 zyyy 2 zzzz 2 zyyy 2 zzzz 4 zyyy
  1 zzzz c zyyy 1 zzzz 1 zyyy 1 zzzz 7 zyyy 1 zzzz 1t zyyy 1 zzzz 4 zyyy 2 zzzz 8 zyyy 1 zzzz 7
  zyyy 1 zzzz s zyyy 1 zzzz 4 zyyy 1 zzzz 5 zyyy 1 zzzz 1 zyyy 3 zzzz 7 zyyy 1 zzzz 9g zyyy 2
  zzzz 84 zyyy 2 zzzz 1e zyyy i4 sgnw f zzzz 5 sgnw 1 zzzz f sgnw uo zzzz v latn 6 zzzz 6 latn
  5x zzzz 7 glag 1 zzzz h glag 2 zzzz 7 glag 1 zzzz 2 glag 1 zzzz 5 glag 5 zzzz 1q cyrl x zzzz 1
  cyrl 34 zzzz 19 hmnp 3 zzzz e hmnp 2 zzzz a hmnp 4 zzzz 2 hmnp 8w zzzz v toto h zzzz 1m wcho 5
  zzzz 1 wcho cw zzzz 16 nagm km zzzz 7 ethi 1 zzzz 4 ethi 1 zzzz 2 ethi 1 zzzz f ethi 1 zzzz 5h
  mend 2 zzzz g mend 15 zzzz 24 adlm 4 zzzz a adlm 4 zzzz 2 adlm lt zzzz 1w zyyy 24 zzzz 1p zyyy
  5e zzzz 4 arab 1 zzzz r arab 1 zzzz 2 arab 1 zzzz 1 arab 2 zzzz 1 arab 1 zzzz a arab 1 zzzz 4
  arab 1 zzzz 1 arab 1 zzzz 1 arab 6 zzzz 1 arab 4 zzzz 1 arab 1 zzzz 1 arab 1 zzzz 1 arab 1
  zzzz 3 arab 1 zzzz 2 arab 1 zzzz 1 arab 2 zzzz 1 arab 1 zzzz 1 arab 1 zzzz 1 arab 1 zzzz 1
  arab 1 zzzz 1 arab 1 zzzz 2 arab 1 zzzz 1 arab 2 zzzz 4 arab 1 zzzz 7 arab 1 zzzz 4 arab 1
  zzzz 4 arab 1 zzzz 1 arab 1 zzzz a arab 1 zzzz h arab 5 zzzz 3 arab 1 zzzz 5 arab 1 zzzz h
  arab 1g zzzz 2 arab 7i zzzz 18 zyyy 4 zzzz 2s zyyy c zzzz f zyyy 2 zzzz f zyyy 1 zzzz f zyyy 1
  zzzz 11 zyyy a zzzz 4u zyyy 1k zzzz q zyyy 1 hira 2 zyyy d zzzz 18 zyyy 4 zzzz 9 zyyy 7 zzzz 2
  zyyy e zzzz 6 zyyy 4a zzzz rc zyyy 4 zzzz h zyyy 3 zzzz d zyyy 3 zzzz 3b zyyy 4 zzzz 2n zyyy 6
  zzzz c zyyy 4 zzzz 1 zyyy f zzzz c zyyy 4 zzzz 1k zyyy 8 zzzz a zyyy 6 zzzz 14 zyyy 8 zzzz u
  zyyy 2 zzzz 2 zyyy 26 zzzz 9g zyyy c zzzz e zyyy 2 zzzz d zyyy 3 zzzz 9 zyyy 7 zzzz 1a zyyy 1
  zzzz 7 zyyy 8 zzzz e zyyy 4 zzzz 9 zyyy 7 zzzz 9 zyyy 7 zzzz 43 zyyy 1 zzzz 1j zyyy 11 zzzz a
  zyyy sm zzzz wyo hani w zzzz 37e hani 6 zzzz 66 hani 2 zzzz 4g2 hani e zzzz 5rl hani 2e7 zzzz
  f2 hani 15u zzzz 3t7 hani 5 zzzz 38g hani f975 zzzz 1 zyyy u zzzz 2o zyyy 3k zzzz 6o zinh 47bk
  zzzz"

/-- The code points at which a script and its extensions differ, as lengths of runs. -/
def scriptPatches : String :=
  "adlm 17j 1 w 1; arab 170 1 e 1 3 1 w 1 a b q 1 1cr1 2 140 s; beng 1u9 2 h 2 3u2 1 1 1 2 2 1 1
  8 1 8 1 2 1 4 1 2 3 rnd 1; bopo 9hd 3 4 a 1 d a 4 2 1 6 1 5f 1 14jt 2 7u 5; bugi xjj 1; buhd
  4l1 2; cakm 1ye a 18w a; copt 1f4w s; cpmn 1erk 2; cprt 1erk 3 4 19 3 9; cyrl w5 2 50x 1 37u
  1; deva 1u9 2 h 2 3u2 13 1 2 s6 1 qpr a; dogr 1us c vcw a; dupl 2fts 4; geor 3cr 1; glag w4 1
  2 1 88r 1 nqj 1; gong 1us 2; gonm 1us 2; gran 1u9 2 h 2 hs e 3bw 1 1 2 u 3 3 2 s6 1 1buy 1 2hg
  2 1 1; grek n6 1 2 1 58a 2; gujr 1u9 2 h 2 vd6 a; guru 1u9 2 h 2 vd6 a; hang 9hd 3 4 a 1 d g 1
  6 1 5f 1 14jt 2 7u 5; hani 9hd 3 2 1 1 a 1 d a 4 2 1 6 1 4 4 57 1 44 g w 10 1o 14 1k 1d f c 1f
  1 2g p a 5 2o v mpt 8 h8d 2 7u 5 15ve i 63i 2; hano 4l1 2; hira 9hd 3 4 a 1 d g 6 1 1 4 2 2j 4
  3 1 2i 2 14js 2 7u 5 a 1 19 2; java xjj 1; kali xf2 1; kana 9hd 3 4 a 1 d g 6 1 1 4 2 2j 4 3 1
  2i 2 14js 2 7u 5 a 1 19 2; khoj 25i a v28 a; knda 1u9 2 h 2 3u2 1 1 1 7 1 n 1 1 1 ri3 6; kthi
  1uu a vcw a; latn o3 d 7p 2 y2 2 1ig 1 303 1 5c 1 qhb 8 fa 1; limb 1ut 1; lina 1err 19; linb
  1erk 3 4 19 3 9; mahj 1us c vcw a; mand 18g 1; mani 18g 1; mlym 1u9 2 h 2 3uc 1 rit 3; modi
  x80 a; mong 4qq 2 1 1 1m1 1; mult 21y a; mymr xf2 1; nand 1us 2 ow a 35l 1 8 1 7 1 rhx 6; nkoo
  170 1 e 1 3 1 1cta 2; orya 1u9 2 h 2 3uc 1 n 1; ougr 18g 1 1fht 1; perm w3 1; phag 4qq 2 1 1;
  phlp 18g 1; rohg 170 1 e 1 3 1 w 1 43 1; shrd 1u9 1 3ut 1 1 1 2 2 2 1; sind 1us 2 vd6 a; sinh
  1us 2; sogd 18g 1; sylo 1us 2 3k a; syrc 170 1 e 2 2 1 w 1 a b q 1 4nb 1 1 1; tagb 4l1 2; takr
  1us 2 vd6 a; tale 37k a; taml 1u9 2 h 2 3uc 1 ro8 1 ky5 1 1 1 1j 2; telu 1u9 2 h 2 3uc 1 n 1;
  tglg 4l1 2; thaa 170 1 e 2 2 1 1s a 1cw8 1 a 1; tirh 1u9 2 h 2 3v0 1 ri5 a; yezi 170 1 e 1 3 1
  1s a; yiii 9hd 2 5 a 2 8 67 1 14rp 5; zinh n6 1 2 1 t d 7p 2 ck b q 1 kg 2 3ul 3 1 d 1 7 4 1 6
  1 3 2 5i 2 1i 1 1 1 l1 1 309 4 2z 2 15j9 1 38a 1; zyyy 170 1 e 1 3 1 w 1 mb 2 1hx 1 189 2 5n 2
  1 1 y5 1 d 1 7 4 1 6 1 3 2 1 ms 1 2s3 1 cd 3 2 1 1 a 1 d g 6 1 1 4 4 2j 2 3 1 2i 2 43 g w 10
  1o 14 1k 1d f c 1f 1 2g p a 5 2o v mpt 8 88 a 6s 1 4g 1 gha 2 79 2 7u 5 a 1 19 2 9s 3 4 19 3 9
  bl r 10o4 4 4ho i 63i 2"

/-- The code points of a script.  Those of no script have no name of their own. -/
def script? (key : Text) : Option CharSet :=
  if key = "zzzz".toList ∨ key = "hrkt".toList then none
  else some (.ofNamedRuns scriptTable key)

/-- The code points used with a script. -/
def scriptExtensions? (key : Text) : Option CharSet :=
  (script? key).map fun set =>
    (Text.splitOn ';' scriptPatches.toList).foldl
      (fun s entry =>
        match Text.words entry with
        | k :: runs => if k = key then s.symmDiff ⟨CharSet.rangesOfRuns 0 runs⟩ else s
        | [] => s)
      set

end LineShell.Unicode
