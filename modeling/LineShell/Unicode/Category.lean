import LineShell.Unicode.CharSet

/-!
# General categories

Every code point has one of thirty general categories, written with two letters.  A name of one
letter stands for all categories that start with it, and `lc` for the three kinds of cased
letters.  Names are looked up in their short and long forms, in lower case and without blanks,
hyphens and underscores.
-/

namespace LineShell.Unicode

/-- The names of one value, the first of which is its key. -/
def keyOf? (names : String) (name : Text) : Option Text :=
  (Text.splitOn ';' names.toList).findSome? fun entry =>
    let forms := Text.words entry
    if forms.contains name then forms.head? else none

/-- The names of the general categories. -/
def categoryNames : String :=
  "c other; cc control cntrl; cf format; cn unassigned; co privateuse; cs surrogate; l letter;
  lc casedletter; ll lowercaseletter; lm modifierletter; lo otherletter; lt titlecaseletter;
  lu uppercaseletter; m mark combiningmark; mc spacingmark; me enclosingmark; mn nonspacingmark;
  n number; nd decimalnumber digit; nl letternumber; no othernumber; p punctuation punct;
  pc connectorpunctuation; pd dashpunctuation; pe closepunctuation; pf finalpunctuation;
  pi initialpunctuation; po otherpunctuation; ps openpunctuation; s symbol; sc currencysymbol;
  sk modifiersymbol; sm mathsymbol; so othersymbol; z separator; zl lineseparator;
  zp paragraphseparator; zs spaceseparator"

/-- The general categories of the code points from zero on, as lengths of runs. -/
def categoryTable : String :=
  "w cc 1 zs 3 po 1 sc 3 po 1 ps 1 pe 1 po 1 sm 1 po 1 pd 2 po a nd 2 po 3 sm 2 po q lu 1 ps 1 po
  1 pe 1 sk 1 pc 1 sk q ll 1 ps 1 sm 1 pe 1 sm x cc 1 zs 1 po 4 sc 1 so 1 po 1 sk 1 so 1 lo 1 pi
  1 sm 1 cf 1 so 1 sk 1 so 1 sm 2 no 1 sk 1 ll 2 po 1 sk 1 no 1 lo 1 pf 3 no 1 po n lu 1 sm 7 lu
  o ll 1 sm 8 ll 1 lu 1 ll 1 lu 1 ll 1 lu 1 ll 1 lu 1 ll 1 lu 1 ll 1 lu 1 ll 1 lu 1 ll 1 lu 1 ll
  1 lu 1 ll 1 lu 1 ll 1 lu 1 ll 1 lu 1 ll 1 lu 1 ll 1 lu 1 ll 1 lu 1 ll 1 lu 1 ll 1 lu 1 ll 1 lu
  1 ll 1 lu 1 ll 1 lu 1 ll 1 lu 1 ll 1 lu 1 ll 1 lu 1 ll 1 lu 1 ll 1 lu 1 ll 1 lu 1 ll 1 lu 1 ll
  1 lu 2 ll 1 lu 1 ll 1 lu 1 ll 1 lu 1 ll 1 lu 1 ll 1 lu 1 ll 1 lu 1 ll 1 lu 1 ll 1 lu 2 ll 1 lu
  1 ll 1 lu 1 ll 1 lu 1 ll 1 lu 1 ll 1 lu 1 ll 1 lu 1 ll 1 lu 1 ll 1 lu 1 ll 1 lu 1 ll 1 lu 1 ll
  1 lu 1 ll 1 lu 1 ll 1 lu 1 ll 1 lu 1 ll 1 lu 1 ll 1 lu 1 ll 1 lu 1 ll 1 lu 1 ll 1 lu 1 ll 1 lu
  1 ll 1 lu 1 ll 1 lu 1 ll 1 lu 1 ll 2 lu 1 ll 1 lu 1 ll 1 lu 3 ll 2 lu 1 ll 1 lu 1 ll 2 lu 1 ll
  3 lu 2 ll 4 lu 1 ll 2 lu 1 ll 3 lu 3 ll 2 lu 1 ll 2 lu 1 ll 1 lu 1 ll 1 lu 1 ll 2 lu 1 ll 1 lu
  2 ll 1 lu 1 ll 2 lu 1 ll 3 lu 1 ll 1 lu 1 ll 2 lu 2 ll 1 lo 1 lu 3 ll 4 lo 1 lu 1 lt 1 ll 1 lu
  1 lt 1 ll 1 lu 1 lt 1 ll 1 lu 1 ll 1 lu 1 ll 1 lu 1 ll 1 lu 1 ll 1 lu 1 ll 1 lu 1 ll 1 lu 1 ll
  1 lu 2 ll 1 lu 1 ll 1 lu 1 ll 1 lu 1 ll 1 lu 1 ll 1 lu 1 ll 1 lu 1 ll 1 lu 1 ll 1 lu 1 ll 1 lu
  2 ll 1 lu 1 lt 1 ll 1 lu 1 ll 3 lu 1 ll 1 lu 1 ll 1 lu 1 ll 1 lu 1 ll 1 lu 1 ll 1 lu 1 ll 1 lu
  1 ll 1 lu 1 ll 1 lu 1 ll 1 lu 1 ll 1 lu 1 ll 1 lu 1 ll 1 lu 1 ll 1 lu 1 ll 1 lu 1 ll 1 lu 1 ll
  1 lu 1 ll 1 lu 1 ll 1 lu 1 ll 1 lu 1 ll 1 lu 1 ll 1 lu 1 ll 1 lu 1 ll 1 lu 1 ll 1 lu 1 ll 1 lu
  1 ll 1 lu 1 ll 1 lu 1 ll 1 lu 1 ll 1 lu 7 ll 2 lu 1 ll 2 lu 2 ll 1 lu 1 ll 4 lu 1 ll 1 lu 1 ll
  1 lu 1 ll 1 lu 1 ll 1 lu 1x ll 1 lo r ll i lm 4 sk c lm e sk 5 lm 7 sk 1 lm 1 sk 1 lm h sk 34
  mn 1 lu 1 ll 1 lu 1 ll 1 lm 1 sk 1 lu 1 ll 2 cn 1 lm 3 ll 1 po 1 lu 4 cn 2 sk 1 lu 1 po 3 lu 1
  cn 1 lu 1 cn 2 lu 1 ll h lu 1 cn 9 lu z ll 1 lu 2 ll 3 lu 3 ll 1 lu 1 ll 1 lu 1 ll 1 lu 1 ll 1
  lu 1 ll 1 lu 1 ll 1 lu 1 ll 1 lu 1 ll 1 lu 1 ll 1 lu 1 ll 1 lu 1 ll 1 lu 1 ll 1 lu 5 ll 1 lu 1
  ll 1 sm 1 lu 1 ll 2 lu 2 ll 1f lu 1c ll 1 lu 1 ll 1 lu 1 ll 1 lu 1 ll 1 lu 1 ll 1 lu 1 ll 1 lu
  1 ll 1 lu 1 ll 1 lu 1 ll 1 lu 1 ll 1 lu 1 ll 1 lu 1 ll 1 lu 1 ll 1 lu 1 ll 1 lu 1 ll 1 lu 1 ll
  1 lu 1 ll 1 lu 1 ll 1 so 5 mn 2 me 1 lu 1 ll 1 lu 1 ll 1 lu 1 ll 1 lu 1 ll 1 lu 1 ll 1 lu 1 ll
  1 lu 1 ll 1 lu 1 ll 1 lu 1 ll 1 lu 1 ll 1 lu 1 ll 1 lu 1 ll 1 lu 1 ll 1 lu 1 ll 1 lu 1 ll 1 lu
  1 ll 1 lu 1 ll 1 lu 1 ll 1 lu 1 ll 1 lu 1 ll 1 lu 1 ll 1 lu 1 ll 1 lu 1 ll 1 lu 1 ll 1 lu 1 ll
  1 lu 1 ll 1 lu 1 ll 2 lu 1 ll 1 lu 1 ll 1 lu 1 ll 1 lu 1 ll 1 lu 1 ll 1 lu 1 ll 1 lu 2 ll 1 lu
  1 ll 1 lu 1 ll 1 lu 1 ll 1 lu 1 ll 1 lu 1 ll 1 lu 1 ll 1 lu 1 ll 1 lu 1 ll 1 lu 1 ll 1 lu 1 ll
  1 lu 1 ll 1 lu 1 ll 1 lu 1 ll 1 lu 1 ll 1 lu 1 ll 1 lu 1 ll 1 lu 1 ll 1 lu 1 ll 1 lu 1 ll 1 lu
  1 ll 1 lu 1 ll 1 lu 1 ll 1 lu 1 ll 1 lu 1 ll 1 lu 1 ll 1 lu 1 ll 1 lu 1 ll 1 lu 1 ll 1 lu 1 ll
  1 lu 1 ll 1 lu 1 ll 1 lu 1 ll 1 lu 1 ll 1 lu 1 ll 1 lu 1 ll 1 lu 1 ll 1 lu 1 ll 1 lu 1 ll 1 lu
  1 ll 1 lu 1 ll 1 lu 1 ll 1 lu 1 ll 1 lu 1 ll 1 lu 1 ll 1 lu 1 ll 1 lu 1 ll 1 lu 1 ll 1 lu 1 ll
  1 cn 12 lu 2 cn 1 lm 6 po 15 ll 1 po 1 pd 2 cn 2 so 1 sc 1 cn 19 mn 1 pd 1 mn 1 po 2 mn 1 po 2
  mn 1 po 1 mn 8 cn r lo 4 cn 4 lo 2 po b cn 6 cf 3 sm 2 po 1 sc 2 po 2 so b mn 1 po 1 cf 3 po w
  lo 1 lm a lo l mn a nd 4 po 2 lo 1 mn 2r lo 1 po 1 lo 7 mn 1 cf 1 so 6 mn 2 lm 2 mn 1 so 4 mn
  2 lo a nd 3 lo 2 so 1 lo e po 1 cn 1 cf 1 lo 1 mn u lo r mn 2 cn 2h lo b mn 1 lo e cn a nd x
  lo 9 mn 2 lm 1 so 3 po 1 lm 2 cn 1 mn 2 sc m lo 4 mn 1 lm 9 mn 1 lm 3 mn 1 lm 5 mn 2 cn f po 1
  cn p lo 3 mn 2 cn 1 po 1 cn b lo 5 cn o lo 1 sk 6 lo 1 cn 2 cf 6 cn 8 mn 15 lo 1 lm o mn 1 cf
  w mn 1 mc 1i lo 1 mn 1 mc 1 mn 1 lo 3 mc 8 mn 4 mc 1 mn 2 mc 1 lo 7 mn a lo 2 mn 2 po a nd 1
  po 1 lm f lo 1 mn 2 mc 1 cn 8 lo 2 cn 2 lo 2 cn m lo 1 cn 7 lo 1 cn 1 lo 3 cn 4 lo 2 cn 1 mn 1
  lo 3 mc 4 mn 2 cn 2 mc 2 cn 2 mc 1 mn 1 lo 8 cn 1 mc 4 cn 2 lo 1 cn 3 lo 2 mn 2 cn a nd 2 lo 2
  sc 6 no 1 so 1 sc 1 lo 1 po 1 mn 2 cn 2 mn 1 mc 1 cn 6 lo 4 cn 2 lo 2 cn m lo 1 cn 7 lo 1 cn 2
  lo 1 cn 2 lo 1 cn 2 lo 2 cn 1 mn 1 cn 3 mc 2 mn 4 cn 2 mn 2 cn 3 mn 3 cn 1 mn 7 cn 4 lo 1 cn 1
  lo 7 cn a nd 2 mn 3 lo 1 mn 1 po a cn 2 mn 1 mc 1 cn 9 lo 1 cn 3 lo 1 cn m lo 1 cn 7 lo 1 cn 2
  lo 1 cn 5 lo 2 cn 1 mn 1 lo 3 mc 5 mn 1 cn 2 mn 1 mc 1 cn 2 mc 1 mn 2 cn 1 lo f cn 2 lo 2 mn 2
  cn a nd 1 po 1 sc 7 cn 1 lo 6 mn 1 cn 1 mn 2 mc 1 cn 8 lo 2 cn 2 lo 2 cn m lo 1 cn 7 lo 1 cn 2
  lo 1 cn 5 lo 2 cn 1 mn 1 lo 1 mc 1 mn 1 mc 4 mn 2 cn 2 mc 2 cn 2 mc 1 mn 7 cn 2 mn 1 mc 4 cn 2
  lo 1 cn 3 lo 2 mn 2 cn a nd 1 so 1 lo 6 no a cn 1 mn 1 lo 1 cn 6 lo 3 cn 3 lo 1 cn 4 lo 3 cn 2
  lo 1 cn 1 lo 1 cn 2 lo 3 cn 2 lo 3 cn 3 lo 3 cn c lo 4 cn 2 mc 1 mn 2 mc 3 cn 3 mc 1 cn 3 mc 1
  mn 2 cn 1 lo 6 cn 1 mc e cn a nd 3 no 6 so 1 sc 1 so 5 cn 1 mn 3 mc 1 mn 8 lo 1 cn 3 lo 1 cn n
  lo 1 cn g lo 2 cn 1 mn 1 lo 3 mn 4 mc 1 cn 3 mn 1 cn 4 mn 7 cn 2 mn 1 cn 3 lo 2 cn 1 lo 2 cn 2
  lo 2 mn 2 cn a nd 7 cn 1 po 7 no 1 so 1 lo 1 mn 2 mc 1 po 8 lo 1 cn 3 lo 1 cn n lo 1 cn a lo 1
  cn 5 lo 2 cn 1 mn 1 lo 1 mc 1 mn 5 mc 1 cn 1 mn 2 mc 1 cn 2 mc 2 mn 7 cn 2 mc 6 cn 2 lo 1 cn 2
  lo 2 mn 2 cn a nd 1 cn 2 lo 1 mc c cn 2 mn 2 mc 9 lo 1 cn 3 lo 1 cn 15 lo 2 mn 1 lo 3 mc 4 mn
  1 cn 3 mc 1 cn 3 mc 1 mn 1 lo 1 so 4 cn 3 lo 1 mc 7 no 3 lo 2 mn 2 cn a nd 9 no 1 so 6 lo 1 cn
  1 mn 2 mc 1 cn i lo 3 cn o lo 1 cn 9 lo 1 cn 1 lo 2 cn 7 lo 3 cn 1 mn 4 cn 3 mc 3 mn 1 cn 1 mn
  1 cn 8 mc 6 cn a nd 2 cn 2 mc 1 po c cn 1c lo 1 mn 2 lo 7 mn 4 cn 1 sc 6 lo 1 lm 8 mn 1 po a
  nd 2 po 11 cn 2 lo 1 cn 1 lo 1 cn 5 lo 1 cn o lo 1 cn 1 lo 1 cn a lo 1 mn 2 lo 9 mn 1 lo 2 cn
  5 lo 1 cn 1 lm 1 cn 7 mn 1 cn a nd 2 cn 4 lo w cn 1 lo 3 so f po 1 so 1 po 3 so 2 mn 6 so a nd
  a no 1 so 1 mn 1 so 1 mn 1 so 1 mn 1 ps 1 pe 1 ps 1 pe 2 mc 8 lo 1 cn 10 lo 4 cn e mn 1 mc 5
  mn 1 po 2 mn 5 lo b mn 1 cn 10 mn 1 cn 8 so 1 mn 6 so 1 cn 2 so 5 po 4 so 2 po 11 cn 17 lo 2
  mc 4 mn 1 mc 6 mn 1 mc 2 mn 2 mc 2 mn 1 lo a nd 6 po 6 lo 2 mc 2 mn 4 lo 3 mn 1 lo 3 mc 2 lo 7
  mc 3 lo 4 mn d lo 1 mn 2 mc 2 mn 6 mc 1 mn 1 lo 1 mc a nd 3 mc 1 mn 2 so 12 lu 1 cn 1 lu 5 cn
  1 lu 2 cn 17 ll 1 po 1 lm 3 ll 95 lo 1 cn 4 lo 2 cn 7 lo 1 cn 1 lo 1 cn 4 lo 2 cn 15 lo 1 cn 4
  lo 2 cn x lo 1 cn 4 lo 2 cn 7 lo 1 cn 1 lo 1 cn 4 lo 2 cn f lo 1 cn 1l lo 1 cn 4 lo 2 cn 1v lo
  2 cn 3 mn 9 po k no 3 cn g lo a so 6 cn 2e lu 2 cn 6 ll 2 cn 1 pd h8 lo 1 so 1 po h lo 1 zs q
  lo 1 ps 1 pe 3 cn 23 lo 3 po 3 nl 8 lo 7 cn i lo 3 mn 1 mc 9 cn j lo 2 mn 1 mc 2 po 9 cn i lo
  2 mn c cn d lo 1 cn 3 lo 1 cn 2 mn c cn 1g lo 2 mn 1 mc 7 mn 8 mc 1 mn 2 mc b mn 3 po 1 lm 3
  po 1 sc 1 lo 1 mn 2 cn a nd 6 cn a no 6 cn 6 po 1 pd 4 po 3 mn 1 cf 1 mn a nd 6 cn z lo 1 lm
  1h lo 7 cn 5 lo 2 mn y lo 1 mn 1 lo 5 cn 1y lo a cn v lo 1 cn 3 mn 4 mc 2 mn 3 mc 4 cn 2 mc 1
  mn 6 mc 3 mn 4 cn 1 so 3 cn 2 po a nd u lo 2 cn 5 lo b cn 18 lo 4 cn q lo 6 cn a nd 1 no 3 cn
  y so n lo 2 mn 2 mc 1 mn 2 cn 2 po 1h lo 1 mc 1 mn 1 mc 7 mn 1 cn 1 mn 1 mc 1 mn 2 mc 8 mn 6
  mc a mn 2 cn 1 mn a nd 6 cn a nd 6 cn 7 po 1 lm 6 po 2 cn e mn 1 me g mn 1d cn 4 mn 1 mc 1b lo
  1 mn 1 mc 5 mn 1 mc 1 mn 5 mc 1 mn 2 mc 8 lo 3 cn a nd 7 po a so 9 mn 9 so 2 po 1 cn 2 mn 1 mc
  u lo 1 mc 4 mn 2 mc 2 mn 1 mc 3 mn 2 lo a nd 18 lo 1 mn 1 mc 2 mn 3 mc 1 mn 1 mc 3 mn 2 mc 8
  cn 4 po 10 lo 8 mc 8 mn 2 mc 2 mn 3 cn 5 po a nd 3 cn 3 lo a nd u lo 6 lm 2 po 9 ll 7 cn 17 lu
  2 cn 3 lu 8 po 8 cn 3 mn 1 po d mn 1 mc 7 mn 4 lo 1 mn 6 lo 1 mn 2 lo 1 mc 2 mn 1 lo 5 cn 18
  ll 1r lm d ll 1 lm y ll 11 lm 1s mn 1 lu 1 ll 1 lu 1 ll 1 lu 1 ll 1 lu 1 ll 1 lu 1 ll 1 lu 1
  ll 1 lu 1 ll 1 lu 1 ll 1 lu 1 ll 1 lu 1 ll 1 lu 1 ll 1 lu 1 ll 1 lu 1 ll 1 lu 1 ll 1 lu 1 ll 1
  lu 1 ll 1 lu 1 ll 1 lu 1 ll 1 lu 1 ll 1 lu 1 ll 1 lu 1 ll 1 lu 1 ll 1 lu 1 ll 1 lu 1 ll 1 lu 1
  ll 1 lu 1 ll 1 lu 1 ll 1 lu 1 ll 1 lu 1 ll 1 lu 1 ll 1 lu 1 ll 1 lu 1 ll 1 lu 1 ll 1 lu 1 ll 1
  lu 1 ll 1 lu 1 ll 1 lu 1 ll 1 lu 1 ll 1 lu 1 ll 1 lu 1 ll 1 lu 1 ll 1 lu 1 ll 1 lu 1 ll 1 lu 1
  ll 1 lu 1 ll 1 lu 1 ll 1 lu 1 ll 1 lu 1 ll 1 lu 1 ll 1 lu 1 ll 1 lu 1 ll 1 lu 1 ll 1 lu 1 ll 1
  lu 1 ll 1 lu 1 ll 1 lu 1 ll 1 lu 1 ll 1 lu 1 ll 1 lu 1 ll 1 lu 1 ll 1 lu 1 ll 1 lu 1 ll 1 lu 1
  ll 1 lu 1 ll 1 lu 1 ll 1 lu 1 ll 1 lu 1 ll 1 lu 1 ll 1 lu 1 ll 1 lu 1 ll 1 lu 1 ll 1 lu 1 ll 1
  lu 1 ll 1 lu 1 ll 1 lu 9 ll 1 lu 1 ll 1 lu 1 ll 1 lu 1 ll 1 lu 1 ll 1 lu 1 ll 1 lu 1 ll 1 lu 1
  ll 1 lu 1 ll 1 lu 1 ll 1 lu 1 ll 1 lu 1 ll 1 lu 1 ll 1 lu 1 ll 1 lu 1 ll 1 lu 1 ll 1 lu 1 ll 1
  lu 1 ll 1 lu 1 ll 1 lu 1 ll 1 lu 1 ll 1 lu 1 ll 1 lu 1 ll 1 lu 1 ll 1 lu 1 ll 1 lu 1 ll 1 lu 1
  ll 1 lu 1 ll 1 lu 1 ll 1 lu 1 ll 1 lu 1 ll 1 lu 1 ll 1 lu 1 ll 1 lu 1 ll 1 lu 1 ll 1 lu 1 ll 1
  lu 1 ll 1 lu 1 ll 1 lu 1 ll 1 lu 1 ll 1 lu 1 ll 1 lu 1 ll 1 lu 1 ll 1 lu 1 ll 1 lu 1 ll 1 lu 1
  ll 1 lu 1 ll 1 lu 1 ll 1 lu 1 ll 1 lu 9 ll 8 lu 6 ll 2 cn 6 lu 2 cn 8 ll 8 lu 8 ll 8 lu 6 ll 2
  cn 6 lu 2 cn 8 ll 1 cn 1 lu 1 cn 1 lu 1 cn 1 lu 1 cn 1 lu 8 ll 8 lu e ll 2 cn 8 ll 8 lt 8 ll 8
  lt 8 ll 8 lt 5 ll 1 cn 2 ll 4 lu 1 lt 1 sk 1 ll 3 sk 3 ll 1 cn 2 ll 4 lu 1 lt 3 sk 4 ll 2 cn 2
  ll 4 lu 1 cn 3 sk 8 ll 5 lu 3 sk 2 cn 3 ll 1 cn 2 ll 4 lu 1 lt 2 sk 1 cn b zs 5 cf 6 pd 2 po 1
  pi 1 pf 1 ps 2 pi 1 pf 1 ps 1 pi 8 po 1 zl 1 zp 5 cf 1 zs 9 po 1 pi 1 pf 4 po 2 pc 3 po 1 sm 1
  ps 1 pe b po 1 sm 1 po 1 pc a po 1 zs 5 cf 1 cn a cf 1 no 1 lm 2 cn 6 no 3 sm 1 ps 1 pe 1 lm a
  no 3 sm 1 ps 1 pe 1 cn d lm 3 cn x sc f cn d mn 4 me 1 mn 3 me c mn f cn 2 so 1 lu 4 so 1 lu 2
  so 1 ll 3 lu 2 ll 3 lu 1 ll 1 so 1 lu 2 so 1 sm 5 lu 6 so 1 lu 1 so 1 lu 1 so 1 lu 1 so 4 lu 1
  so 1 ll 4 lu 1 ll 4 lo 1 ll 2 so 2 ll 2 lu 5 sm 1 lu 4 ll 1 so 1 sm 2 so 1 ll 1 so g no z nl 1
  lu 1 ll 4 nl 1 no 2 so 4 cn 5 sm 5 so 2 sm 4 so 1 sm 2 so 1 sm 2 so 1 sm 7 so 1 sm v so 2 sm 2
  so 1 sm 1 so 1 sm v so 7g sm 8 so 1 ps 1 pe 1 ps 1 pe k so 2 sm 7 so 1 ps 1 pe 29 so 1 sm u so
  p sm 14 so 6 sm 1x so p cn b so l cn 1o no 26 so m no 53 so 1 sm 9 so 1 sm 1i so 8 sm 33 so 1
  sm 6w so 1 ps 1 pe 1 ps 1 pe 1 ps 1 pe 1 ps 1 pe 1 ps 1 pe 1 ps 1 pe 1 ps 1 pe u no 18 so 5 sm
  1 ps 1 pe v sm 1 ps 1 pe 1 ps 1 pe 1 ps 1 pe 1 ps 1 pe 1 ps 1 pe g sm 74 so 3n sm 1 ps 1 pe 1
  ps 1 pe 1 ps 1 pe 1 ps 1 pe 1 ps 1 pe 1 ps 1 pe 1 ps 1 pe 1 ps 1 pe 1 ps 1 pe 1 ps 1 pe 1 ps 1
  pe 1r sm 1 ps 1 pe 1 ps 1 pe w sm 1 ps 1 pe 76 sm 1c so l sm 2 so 6 sm 13 so 2 cn w so 1 cn 2x
  so 1c lu 1c ll 1 lu 1 ll 3 lu 2 ll 1 lu 1 ll 1 lu 1 ll 1 lu 1 ll 4 lu 1 ll 1 lu 2 ll 1 lu 6 ll
  2 lm 3 lu 1 ll 1 lu 1 ll 1 lu 1 ll 1 lu 1 ll 1 lu 1 ll 1 lu 1 ll 1 lu 1 ll 1 lu 1 ll 1 lu 1 ll
  1 lu 1 ll 1 lu 1 ll 1 lu 1 ll 1 lu 1 ll 1 lu 1 ll 1 lu 1 ll 1 lu 1 ll 1 lu 1 ll 1 lu 1 ll 1 lu
  1 ll 1 lu 1 ll 1 lu 1 ll 1 lu 1 ll 1 lu 1 ll 1 lu 1 ll 1 lu 1 ll 1 lu 1 ll 1 lu 1 ll 1 lu 1 ll
  1 lu 1 ll 1 lu 1 ll 1 lu 1 ll 1 lu 1 ll 1 lu 1 ll 1 lu 1 ll 1 lu 1 ll 1 lu 1 ll 1 lu 1 ll 1 lu
  1 ll 1 lu 1 ll 1 lu 1 ll 1 lu 1 ll 1 lu 1 ll 1 lu 1 ll 1 lu 1 ll 1 lu 1 ll 1 lu 1 ll 1 lu 1 ll
  1 lu 1 ll 1 lu 1 ll 1 lu 2 ll 6 so 1 lu 1 ll 1 lu 1 ll 3 mn 1 lu 1 ll 5 cn 4 po 1 no 2 po 12
  ll 1 cn 1 ll 5 cn 1 ll 2 cn 1k lo 7 cn 1 lm 1 po e cn 1 mn n lo 9 cn 7 lo 1 cn 7 lo 1 cn 7 lo
  1 cn 7 lo 1 cn 7 lo 1 cn 7 lo 1 cn 7 lo 1 cn 7 lo 1 cn w mn 2 po 1 pi 1 pf 1 pi 1 pf 3 po 1 pi
  1 pf 1 po 1 pi 1 pf 9 po 1 pd 2 po 1 pd 1 po 1 pi 1 pf 2 po 1 pi 1 pf 1 ps 1 pe 1 ps 1 pe 1 ps
  1 pe 1 ps 1 pe 5 po 1 lm a po 2 pd 4 po 1 pd 1 po 1 ps d po 2 so 3 po 1 ps 1 pe 1 ps 1 pe 1 ps
  1 pe 1 ps 1 pe 1 pd y cn q so 1 cn 2h so c cn 5y so q cn c so 4 cn 1 zs 3 po 1 so 1 lm 1 lo 1
  nl 1 ps 1 pe 1 ps 1 pe 1 ps 1 pe 1 ps 1 pe 1 ps 1 pe 2 so 1 ps 1 pe 1 ps 1 pe 1 ps 1 pe 1 ps 1
  pe 1 pd 1 ps 2 pe 1 so 9 nl 4 mn 2 mc 1 pd 5 lm 2 so 3 nl 1 lm 1 lo 1 po 2 so 1 cn 2e lo 2 cn
  2 mn 2 sk 2 lm 1 lo 1 pd 2i lo 1 po 3 lm 1 lo 5 cn 17 lo 1 cn 2m lo 1 cn 2 so 4 no a so w lo
  10 so c cn g lo v so 1 cn a no u so 8 no 1 so f no w so a no 13 so f no 8w so 534 lo 1s so g7p
  lo 1 lm vr lo 3 cn 1j so 9 cn 14 lo 6 lm 2 po 7g lo 1 lm 3 po g lo a nd 2 lo k cn 1 lu 1 ll 1
  lu 1 ll 1 lu 1 ll 1 lu 1 ll 1 lu 1 ll 1 lu 1 ll 1 lu 1 ll 1 lu 1 ll 1 lu 1 ll 1 lu 1 ll 1 lu 1
  ll 1 lu 1 ll 1 lu 1 ll 1 lu 1 ll 1 lu 1 ll 1 lu 1 ll 1 lu 1 ll 1 lu 1 ll 1 lu 1 ll 1 lu 1 ll 1
  lu 1 ll 1 lu 1 ll 1 lu 1 ll 1 lo 1 mn 3 me 1 po a mn 1 po 1 lm 1 lu 1 ll 1 lu 1 ll 1 lu 1 ll 1
  lu 1 ll 1 lu 1 ll 1 lu 1 ll 1 lu 1 ll 1 lu 1 ll 1 lu 1 ll 1 lu 1 ll 1 lu 1 ll 1 lu 1 ll 1 lu 1
  ll 1 lu 1 ll 2 lm 2 mn 1y lo a nl 2 mn 6 po 8 cn n sk 9 lm 2 sk 1 lu 1 ll 1 lu 1 ll 1 lu 1 ll
  1 lu 1 ll 1 lu 1 ll 1 lu 1 ll 1 lu 3 ll 1 lu 1 ll 1 lu 1 ll 1 lu 1 ll 1 lu 1 ll 1 lu 1 ll 1 lu
  1 ll 1 lu 1 ll 1 lu 1 ll 1 lu 1 ll 1 lu 1 ll 1 lu 1 ll 1 lu 1 ll 1 lu 1 ll 1 lu 1 ll 1 lu 1 ll
  1 lu 1 ll 1 lu 1 ll 1 lu 1 ll 1 lu 1 ll 1 lu 1 ll 1 lu 1 ll 1 lu 1 ll 1 lu 1 ll 1 lu 1 ll 1 lu
  1 ll 1 lu 1 ll 1 lu 1 ll 1 lu 1 ll 1 lu 1 ll 1 lu 1 ll 1 lu 1 ll 1 lm 8 ll 1 lu 1 ll 1 lu 1 ll
  2 lu 1 ll 1 lu 1 ll 1 lu 1 ll 1 lu 1 ll 1 lu 1 ll 1 lm 2 sk 1 lu 1 ll 1 lu 1 ll 1 lo 1 lu 1 ll
  1 lu 3 ll 1 lu 1 ll 1 lu 1 ll 1 lu 1 ll 1 lu 1 ll 1 lu 1 ll 1 lu 1 ll 1 lu 1 ll 1 lu 1 ll 1 lu
  1 ll 1 lu 1 ll 5 lu 1 ll 5 lu 1 ll 1 lu 1 ll 1 lu 1 ll 1 lu 1 ll 1 lu 1 ll 1 lu 1 ll 1 lu 1 ll
  1 lu 1 ll 4 lu 1 ll 1 lu 1 ll 5 cn 1 lu 1 ll 1 cn 1 ll 1 cn 1 ll 1 lu 1 ll 1 lu 1 ll o cn 3 lm
  1 lu 1 ll 1 lo 2 lm 1 ll 7 lo 1 mn 3 lo 1 mn 4 lo 1 mn n lo 2 mc 2 mn 1 mc 4 so 1 mn 3 cn 6 no
  2 so 1 sc 1 so 6 cn 1g lo 4 po 8 cn 2 mc 1e lo g mc 2 mn 8 cn 2 po a nd 6 cn i mn 6 lo 3 po 1
  lo 1 po 2 lo 1 mn a nd s lo 8 mn 2 po n lo b mn 2 mc b cn 1 po t lo 3 cn 3 mn 1 mc 1b lo 1 mn
  2 mc 4 mn 2 mc 2 mn 3 mc d po 1 cn 1 lm a nd 4 cn 2 po 5 lo 1 mn 1 lm 9 lo a nd 5 lo 1 cn 15
  lo 6 mn 2 mc 2 mn 2 mc 2 mn 9 cn 3 lo 1 mn 8 lo 1 mn 1 mc 2 cn a nd 2 cn 4 po g lo 1 lm 6 lo 3
  so 1 lo 1 mc 1 mn 1 mc 1e lo 1 mn 1 lo 3 mn 2 lo 2 mn 5 lo 2 mn 1 lo 1 mn 1 lo o cn 2 lo 1 lm
  2 po b lo 1 mc 2 mn 2 mc 2 po 1 lo 2 lm 1 mc 1 mn a cn 6 lo 2 cn 6 lo 2 cn 6 lo 9 cn 7 lo 1 cn
  7 lo 1 cn 17 ll 1 sk 4 lm 9 ll 1 lm 2 sk 4 cn 28 ll z lo 2 mc 1 mn 2 mc 1 mn 2 mc 1 po 1 mc 1
  mn 2 cn a nd 6 cn 8mc lo c cn n lo 4 cn 1d lo 4 cn 1kw cs 4xs co a6 lo 2 cn 2y lo 12 cn 7 ll c
  cn 5 ll 5 cn 1 lo 1 mn a lo 1 sm d lo 1 cn 5 lo 1 cn 1 lo 1 cn 2 lo 1 cn 2 lo 1 cn 30 lo h sk
  g cn a3 lo 1 pe 1 ps g so 1s lo 2 cn 1i lo 7 cn 1 so w cn c lo 1 sc 3 so g mn 7 po 1 ps 1 pe 1
  po 6 cn g mn 1 po 2 pd 2 pc 1 ps 1 pe 1 ps 1 pe 1 ps 1 pe 1 ps 1 pe 1 ps 1 pe 1 ps 1 pe 1 ps 1
  pe 1 ps 1 pe 2 po 1 ps 1 pe 4 po 3 pc 3 po 1 cn 4 po 1 pd 1 ps 1 pe 1 ps 1 pe 1 ps 1 pe 3 po 1
  sm 1 pd 3 sm 1 cn 1 po 1 sc 2 po 4 cn 5 lo 1 cn 3r lo 2 cn 1 cf 1 cn 3 po 1 sc 3 po 1 ps 1 pe
  1 po 1 sm 1 po 1 pd 2 po a nd 2 po 3 sm 2 po q lu 1 ps 1 po 1 pe 1 sk 1 pc 1 sk q ll 1 ps 1 sm
  1 pe 1 sm 1 ps 1 pe 1 po 1 ps 1 pe 2 po a lo 1 lm 19 lo 2 lm v lo 3 cn 6 lo 2 cn 6 lo 2 cn 6
  lo 2 cn 3 lo 3 cn 2 sc 1 sm 1 sk 1 so 2 sc 1 cn 1 so 4 sm 2 so a cn 3 cf 2 so 2 cn c lo 1 cn q
  lo 1 cn j lo 1 cn 2 lo 1 cn f lo 2 cn e lo y cn 3f lo 5 cn 3 po 4 cn 19 no 3 cn 9 so 1h nl 4
  no h so 2 no 3 so 1 cn d so 3 cn 1 so 1b cn 19 so 1 mn 3m cn t lo 3 cn 1d lo f cn 1 mn r no 4
  cn w lo 4 no 9 cn k lo 1 nl 8 lo 1 nl 5 cn 12 lo 5 mn 5 cn u lo 1 cn 1 po 10 lo 4 cn 8 lo 1 po
  5 nl 16 cn 14 lu 14 ll 26 lo 2 cn a nd 6 cn 10 lu 4 cn 10 ll 4 cn 14 lo 8 cn 1g lo b cn 1 po b
  lu 1 cn f lu 1 cn 7 lu 1 cn 2 lu 1 cn b ll 1 cn f ll 1 cn 7 ll 1 cn 2 ll 1v cn 8n lo 9 cn m lo
  a cn 8 lo o cn 6 lm 1 cn 16 lm 1 cn 9 lm 1x cn 6 lo 2 cn 1 lo 1 cn 18 lo 1 cn 2 lo 3 cn 1 lo 2
  cn n lo 1 cn 1 po 8 no n lo 2 so 7 no v lo 8 cn 9 no 1c cn j lo 1 cn 2 lo 5 cn 5 no m lo 6 no
  3 cn 1 po q lo 5 cn 1 po 1s cn 1k lo 4 cn 2 no 2 lo g no 2 cn 1a no 1 lo 3 mn 1 cn 2 mn 5 cn 4
  mn 4 lo 1 cn 3 lo 1 cn t lo 2 cn 3 mn 4 cn 1 mn 9 no 7 cn 9 po 7 cn t lo 2 no 1 po t lo 3 no w
  cn 8 lo 1 so s lo 2 mn 4 cn 5 no 7 po 9 cn 1i lo 3 cn 7 po m lo 2 cn 8 no j lo 5 cn 8 no i lo
  7 cn 4 po c cn 7 no 28 cn 21 lo 1j cn 1f lu d cn 1f ll 7 cn 6 no 10 lo 4 mn 8 cn a nd 86 cn v
  no 1 cn 16 lo 1 cn 2 mn 1 pd 2 cn 2 lo 23 cn 3 mn t lo a no 1 lo 8 cn m lo b mn 4 no 5 po m cn
  i lo 4 mn 4 po 12 cn l lo 7 no k cn n lo 9 cn 1 mc 1 mn 1 mc 1h lo f mn 7 po 4 cn k no a nd 1
  mn 2 lo 2 mn 1 lo 9 cn 3 mn 1 mc 19 lo 3 mc 4 mn 2 mc 2 mn 2 po 1 cf 4 po 1 mn a cn 1 cf 2 cn
  p lo 7 cn a nd 6 cn 3 mn 10 lo 5 mn 1 mc 8 mn 1 cn a nd 4 po 1 lo 2 mc 1 lo 8 cn z lo 1 mn 2
  po 1 lo 9 cn 2 mn 1 mc 1c lo 3 mc 9 mn 2 mc 4 lo 4 po 4 mn 1 po 1 mc 1 mn a nd 1 lo 1 po 1 lo
  3 po 1 cn k no b cn i lo 1 cn p lo 3 mc 3 mn 2 mc 1 mn 1 mc 2 mn 6 po 1 mn 2 lo 1 mn 1q cn 7
  lo 1 cn 1 lo 1 cn 4 lo 1 cn f lo 1 cn a lo 1 po 6 cn 1b lo 1 mn 3 mc 8 mn 5 cn a nd 6 cn 2 mn
  2 mc 1 cn 8 lo 2 cn 2 lo 2 cn m lo 1 cn 7 lo 1 cn 2 lo 1 cn 5 lo 1 cn 2 mn 1 lo 2 mc 1 mn 4 mc
  2 cn 2 mc 2 cn 3 mc 2 cn 1 lo 6 cn 1 mc 5 cn 5 lo 2 mc 2 cn 7 mn 3 cn 5 mn 3v cn 1h lo 3 mc 8
  mn 2 mc 3 mn 1 mc 1 mn 4 lo 5 po a nd 2 po 1 cn 1 po 1 mn 3 lo u cn 1c lo 3 mc 6 mn 1 mc 1 mn
  4 mc 2 mn 1 mc 2 mn 2 lo 1 po 1 lo 8 cn a nd 4m cn 1b lo 3 mc 4 mn 2 cn 4 mc 2 mn 1 mc 2 mn n
  po 4 lo 2 mn y cn 1c lo 3 mc 8 mn 2 mc 1 mn 1 mc 2 mn 3 po 1 lo b cn a nd 6 cn d po j cn 17 lo
  1 mn 1 mc 1 mn 2 mc 6 mn 1 mc 1 mn 1 lo 1 po 6 cn a nd 1i cn r lo 2 cn 3 mn 2 mc 4 mn 1 mc 5
  mn 4 cn a nd 2 no 3 po 1 so 7 lo 55 cn 18 lo 3 mc 9 mn 1 mc 2 mn 1 po 2s cn w lu w ll a nd 9
  no c cn 8 lo 2 cn 1 lo 2 cn 8 lo 1 cn 2 lo 1 cn o lo 6 mc 1 cn 2 mc 2 cn 2 mn 1 mc 1 mn 1 lo 1
  mc 1 lo 1 mc 1 mn 3 po 9 cn a nd 1y cn 8 lo 2 cn 13 lo 3 mc 4 mn 2 cn 2 mn 4 mc 1 mn 1 lo 1 po
  1 lo 1 mc r cn 1 lo a mn 14 lo 6 mn 1 mc 1 lo 4 mn 8 po 1 mn 8 cn 1 lo 6 mn 2 mc 3 mn 1a lo d
  mn 1 mc 2 mn 3 po 1 lo 5 po d cn 21 lo 7 cn a po 6u cn 9 lo 1 cn 11 lo 1 mc 7 mn 1 cn 6 mn 1
  mc 1 mn 1 lo 5 po a cn a nd j no 3 cn 2 po u lo 2 cn m mn 1 cn 1 mc 7 mn 1 mc 2 mn 1 mc 2 mn
  21 cn 7 lo 1 cn 2 lo 1 cn 12 lo 6 mn 3 cn 1 mn 1 cn 2 mn 1 cn 7 mn 1 lo 1 mn 8 cn a nd 6 cn 6
  lo 1 cn 2 lo 1 cn w lo 5 mc 1 cn 2 mn 1 cn 2 mc 1 mn 1 mc 1 mn 1 lo 7 cn a nd 8m cn j lo 2 mn
  2 mc 2 po 7 cn 2 mn 1 lo 1 mc d lo 1 cn y lo 2 mc 5 mn 3 cn 2 mc 1 mn 1 mc 1 mn d po a nd 2e
  cn 1 lo f cn l no 8 so 4 sc h so d cn 1 po pm lo 2u cn 33 nl 1 cn 5 po b cn 5g lo 218 cn 2p lo
  2 po d cn ts lo g cf 1 mn 6 lo f mn 33e cn g7 lo 6nt cn ft lo 7 cn v lo 1 cn a nd 4 cn 2 po 27
  lo 1 cn a nd 6 cn u lo 2 cn 5 mn 1 po a cn 1c lo 7 mn 5 po 4 so 4 lm 1 po 1 so a cn a nd 1 cn
  7 no 1 cn l lo 5 cn j lo j4 cn w lu w ll n no 4 po 2t cn 23 lo 4 cn 1 mn 1 lo 1j mc 7 cn 4 mn
  d lm 1s cn 2 lm 1 po 1 lm 1 mn b cn 2 mc e cn 4qg lo 8 cn ye lo 16 cn 9 lo 6w7 cn 4 lm 1 cn 7
  lm 1 cn 2 lm 1 cn 83 lo f cn 1 lo t cn 3 lo 2 cn 1 lo e cn 4 lo 8 cn b0 lo 1s4 cn 2z lo 5 cn d
  lo 3 cn 9 lo 7 cn a lo 2 cn 1 so 2 mn 1 po 4 cf 3mk cn 1a mn 2 cn n mn 9 cn 38 so 1o cn 6u so
  a cn 13 so 2 cn 1o so 2 mc 3 mn 3 so 6 mc 8 cf 8 mn 2 so 7 mn u so 4 mn 1p so l cn 1u so 3 mn
  1 so 3e cn k no c cn k no c cn 2f so 9 cn p no 3r cn q lu q ll q lu 7 ll 1 cn i ll q lu q ll 1
  lu 1 cn 2 lu 2 cn 1 lu 2 cn 2 lu 2 cn 4 lu 1 cn 8 lu 4 ll 1 cn 1 ll 1 cn 7 ll 1 cn b ll q lu q
  ll 2 lu 1 cn 4 lu 2 cn 8 lu 1 cn 7 lu 1 cn q ll 2 lu 1 cn 4 lu 1 cn 5 lu 1 cn 1 lu 3 cn 7 lu 1
  cn q ll q lu q ll q lu q ll q lu q ll q lu q ll q lu q ll q lu s ll 2 cn p lu 1 sm p ll 1 sm 6
  ll p lu 1 sm p ll 1 sm 6 ll p lu 1 sm p ll 1 sm 6 ll p lu 1 sm p ll 1 sm 6 ll p lu 1 sm p ll 1
  sm 6 ll 1 lu 1 ll 2 cn 1e nd e8 so 1j mn 4 so 1e mn 8 so 1 mn e so 1 mn 2 so 5 po f cn 5 mn 1
  cn f mn uo cn a ll 1 lo k ll 6 cn 6 ll 5x cn 7 mn 1 cn h mn 2 cn 7 mn 1 cn 2 mn 1 cn 5 mn 5 cn
  1q lm x cn 1 mn 34 cn 19 lo 3 cn 7 mn 7 lm 2 cn a nd 4 cn 1 lo 1 so 8w cn u lo 1 mn h cn 18 lo
  4 mn a nd 5 cn 1 sc cw cn r lo 1 lm 4 mn a nd km cn 7 lo 1 cn 4 lo 1 cn 2 lo 1 cn f lo 1 cn 5h
  lo 2 cn 9 no 7 mn 15 cn y lu y ll 7 mn 1 lm 4 cn a nd 4 cn 2 po lt cn 1n no 1 so 3 no 1 sc 4
  no 24 cn 19 no 1 so f no 5e cn 4 lo 1 cn r lo 1 cn 2 lo 1 cn 1 lo 2 cn 1 lo 1 cn a lo 1 cn 4
  lo 1 cn 1 lo 1 cn 1 lo 6 cn 1 lo 4 cn 1 lo 1 cn 1 lo 1 cn 1 lo 1 cn 3 lo 1 cn 2 lo 1 cn 1 lo 2
  cn 1 lo 1 cn 1 lo 1 cn 1 lo 1 cn 1 lo 1 cn 1 lo 1 cn 2 lo 1 cn 1 lo 2 cn 4 lo 1 cn 7 lo 1 cn 4
  lo 1 cn 4 lo 1 cn 1 lo 1 cn a lo 1 cn h lo 5 cn 3 lo 1 cn 5 lo 1 cn h lo 1g cn 2 sm 7i cn 18
  so 4 cn 2s so c cn f so 2 cn f so 1 cn f so 1 cn 11 so a cn d no 4h so 1k cn t so d cn 18 so 4
  cn 9 so 7 cn 2 so e cn 6 so 4a cn 6z so 5 sk k8 so 4 cn h so 3 cn d so 3 cn 3b so 4 cn 2n so 6
  cn c so 4 cn 1 so f cn c so 4 cn 1k so 8 cn a so 6 cn 14 so 8 cn u so 2 cn 2 so 26 cn 9g so c
  cn e so 2 cn d so 3 cn 9 so 7 cn 1a so 1 cn 7 so 8 cn e so 4 cn 9 so 7 cn 9 so 7 cn 43 so 1 cn
  1j so 11 cn a nd sm cn wyo lo w cn 37e lo 6 cn 66 lo 2 cn 4g2 lo e cn 5rl lo 2e7 cn f2 lo 15u
  cn 3t7 lo 5 cn 38g lo f975 cn 1 cf u cn 2o cf 3k cn 6o mn 1e6o cn 1eke co 2 cn 1eke co 2 cn"

/-- The code points of one of the thirty categories. -/
def categoryRun (key : Text) : CharSet := .ofNamedRuns categoryTable key

/-- The code points of a category, or of several for a key of one letter. -/
def category (key : Text) : CharSet :=
  let runs := CharSet.namedRanges 0 (Text.words categoryTable.toList)
  let keys : Text → Bool :=
    if key = "lc".toList then fun k => k = "lu".toList || k = "ll".toList || k = "lt".toList
    else if key.length = 1 then fun k => key.isPrefixOf k
    else fun k => k = key
  .ofRanges (runs.filterMap fun (k, lo, hi) => if keys k then some (lo, hi) else none)

/-- The code points of any of some categories, written in one line. -/
def categories (keys : String) : CharSet :=
  .ofRanges ((Text.words keys.toList).flatMap fun key => (category key).ranges)

end LineShell.Unicode
