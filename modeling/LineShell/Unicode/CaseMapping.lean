import LineShell.Unicode.Property

/-!
# Upper and lower case

Two mappings of characters, written as runs: so many characters, one or two apart, that move by
the same distance.

**Folding.**  `fold` takes characters that differ in case only to one of them, so two characters
match when case is ignored iff they fold alike; `CharSet.closeCase` adds to a set all characters
that fold like one in it.

**Lowering.**  `lowercase` writes a text in lower case.  A capital sigma at the end of a word
becomes a final sigma, and a dotted capital I two characters.
-/

namespace LineShell.Unicode

/-- So many characters from `first` on, `stride` apart, move to those from `target` on. -/
structure CaseRun where
  first : Nat
  count : Nat
  stride : Nat
  target : Nat

/-- Reads runs from their numbers. -/
def caseRunsOf : List Text → List CaseRun
  | first :: count :: stride :: target :: rest =>
    ⟨CharSet.number36 first, CharSet.number36 count, CharSet.number36 stride,
      CharSet.number36 target⟩ :: caseRunsOf rest
  | _ => []

/-- Where a run takes a code point. -/
def CaseRun.map? (r : CaseRun) (n : Nat) : Option Nat :=
  if r.first ≤ n ∧ (n - r.first) % r.stride = 0 ∧ (n - r.first) / r.stride < r.count then
    some (r.target + (n - r.first))
  else none

/-- All code points of a run with where they go. -/
def CaseRun.pairs (r : CaseRun) : List (Nat × Nat) :=
  (List.range r.count).map fun i => (r.first + i * r.stride, r.target + i * r.stride)

/-! ## Folding -/

/-- The characters that fold to another one. -/
def foldTable : String :=
  "1t q 1 2p 51 1 1 qk 5c n 1 68 60 7 1 6w 74 o 2 75 8i 3 2 8j 8p 8 2 8q 96 n 2 97 ag 1 1 73 ah 3
  2 ai an 1 1 37 ap 1 1 gj aq 2 2 ar au 1 1 gk av 1 1 aw ax 2 1 gm az 1 1 b0 b2 1 1 d9 b3 1 1 gp
  b4 1 1 gr b5 1 1 b6 b7 1 1 gw b8 1 1 gz ba 1 1 h5 bb 1 1 h4 bc 1 1 bd bg 1 1 hb bh 1 1 he bj 1
  1 hh bk 3 2 bl bq 1 1 hs br 1 1 bs bt 1 1 hv bw 1 1 bx by 1 1 i0 bz 1 1 c0 c1 2 1 i2 c3 2 2 c4
  c7 1 1 ia c8 1 1 c9 cc 1 1 cd ck 1 1 cm cl 1 1 cm cn 1 1 cp co 1 1 cp cq 1 1 cs cr 9 2 cs da 9
  2 db dt 1 1 dv du 2 2 dv dy 1 1 b9 dz 1 1 cf e0 k 2 e1 f4 1 1 bi f6 9 2 f7 fu 1 1 8rp fv 1 1
  fw fx 1 1 be fy 1 1 8rq g1 1 1 g2 g3 1 1 ao g4 1 1 i1 g5 1 1 i4 g6 5 2 g7 n9 1 1 qh og 2 2 oh
  om 1 1 on ov 1 1 s3 p2 1 1 q4 p4 3 1 q5 p8 1 1 r0 pa 2 1 r1 pd h 1 q9 pv 9 1 qr qq 1 1 qr r3 1
  1 rb r4 1 1 qa r5 1 1 qg r9 1 1 qu ra 1 1 qo rc c 2 rd s0 1 1 qi s1 1 1 qp s4 1 1 qg s5 1 1 qd
  s7 1 1 s8 s9 1 1 s2 sa 1 1 sb sd 3 1 or sg g 1 uo sw w 1 ts v4 h 2 v5 wa r 2 wb xs 1 1 y7 xt 7
  2 xu y8 1c 2 y9 10x 12 1 129 3a8 12 1 8w0 3bb 1 1 8x3 3bh 1 1 8x9 3y0 6 1 3xs 5mo 1 1 tu 5mp 1
  1 tw 5mq 1 1 u6 5mr 2 1 u9 5mt 1 1 ua 5mu 1 1 ui 5mv 1 1 v7 5mw 1 1 wuj 5mx 1 1 5my 5n4 17 1
  3bk 5od 3 1 3ct 5xc 23 2 5xd 61n 1 1 601 61q 1 1 67 61s 1c 2 61t 64o 8 1 64g 654 6 1 64w 65k 8
  1 65c 660 8 1 65s 66g 6 1 668 66x 4 2 66p 67c 8 1 674 688 8 1 680 68o 8 1 68g 694 8 1 68w 69k
  2 1 69c 69m 2 1 67k 69o 1 1 69f 69q 1 1 qh 6a0 4 1 67m 6a4 1 1 69v 6ab 1 1 pc 6ag 2 1 6a8 6ai
  2 1 67q 6ar 1 1 q8 6aw 2 1 6ao 6ay 2 1 67u 6b0 1 1 6at 6bc 2 1 67s 6be 2 1 67w 6bg 1 1 6b7 6jq
  1 1 qx 6ju 1 1 2z 6jv 1 1 6d 6k2 1 1 6ku 6lc g 1 6ls 6mb 1 1 6mc 792 q 1 79s 8ow 1c 1 8q8 8rk
  1 1 8rl 8rm 1 1 h7 8rn 1 1 5tp 8ro 1 1 hp 8rr 3 2 8rs 8rx 1 1 gh 8ry 1 1 hd 8rz 1 1 gg 8s0 1 1
  gi 8s2 1 1 8s3 8s5 1 1 8s6 8se 2 1 fz 8sg 1e 2 8sh 8vf 2 2 8vg 8vm 1 1 8vn wu8 n 2 wu9 ww0 e 2
  ww1 x0i 7 2 x0j x0y v 2 x0z x2x 2 2 x2y x31 1 1 5tl x32 5 2 x33 x3f 1 1 x3g x3h 1 1 h1 x3k 2 2
  x3l x3q a 2 x3r x4a 1 1 h2 x4b 1 1 gs x4c 1 1 gx x4d 1 1 h8 x4e 1 1 h6 x4g 1 1 im x4h 1 1 hz
  x4i 1 1 il x4j 1 1 xub x4k 8 2 x4l x50 1 1 x3o x51 1 1 hu x52 1 1 5u6 x53 2 2 x54 x57 1 1 h0
  x58 1 1 x59 x5c 1 1 x5d x5i 3 2 x5j x5o 1 1 bf x6d 1 1 x6e xv4 28 1 3vk 1dl1 1 1 1dl2 1ee9 q 1
  1ef5 1fcw 14 1 1fe0 1fhs 10 1 1fiw 1fn4 j 2 1fo7 1fn5 5 2 1fo8 1fnh 7 2 1fok 1fnx 3 2 1fp0
  1fo5 1 1 1fp8 1h1c 1f 1 1h34 1h74 m 1 1h80 1jfk w 1 1jgg 20cg w 1 20dc 2olc y 1 2oma"

/-- The runs of the folding. -/
def foldRuns : List CaseRun := caseRunsOf (Text.words foldTable.toList)

/-- What a code point folds to. -/
def fold (n : Nat) : Nat := (foldRuns.findSome? fun r => r.map? n).getD n

/-- The set with all characters that differ from one of it in case only. -/
def closeCase (s : CharSet) : CharSet :=
  let pairs := foldRuns.flatMap CaseRun.pairs
  let folds := pairs.filterMap fun (n, t) => if s.hasCode n || s.hasCode t then some t else none
  let added := pairs.flatMap fun (n, t) => if folds.contains t then [(n, n), (t, t)] else []
  .ofRanges (s.ranges ++ added)

/-! ## Lowering -/

/-- The characters that have one other character as lower case. -/
def lowerTable : String :=
  "1t q 1 2p 5c n 1 68 60 7 1 6w 74 o 2 75 8i 3 2 8j 8p 8 2 8q 96 n 2 97 ag 1 1 73 ah 3 2 ai ap 1 1
  gj aq 2 2 ar au 1 1 gk av 1 1 aw ax 2 1 gm az 1 1 b0 b2 1 1 d9 b3 1 1 gp b4 1 1 gr b5 1 1 b6 b7
  1 1 gw b8 1 1 gz ba 1 1 h5 bb 1 1 h4 bc 1 1 bd bg 1 1 hb bh 1 1 he bj 1 1 hh bk 3 2 bl bq 1 1 hs
  br 1 1 bs bt 1 1 hv bw 1 1 bx by 1 1 i0 bz 1 1 c0 c1 2 1 i2 c3 2 2 c4 c7 1 1 ia c8 1 1 c9 cc 1 1
  cd ck 1 1 cm cl 1 1 cm cn 1 1 cp co 1 1 cp cq 1 1 cs cr 9 2 cs da 9 2 db dt 1 1 dv du 2 2 dv dy
  1 1 b9 dz 1 1 cf e0 k 2 e1 f4 1 1 bi f6 9 2 f7 fu 1 1 8rp fv 1 1 fw fx 1 1 be fy 1 1 8rq g1 1 1
  g2 g3 1 1 ao g4 1 1 i1 g5 1 1 i4 g6 5 2 g7 og 2 2 oh om 1 1 on ov 1 1 s3 p2 1 1 q4 p4 3 1 q5 p8
  1 1 r0 pa 2 1 r1 pd h 1 q9 pv 9 1 qr r3 1 1 rb rc c 2 rd s4 1 1 qg s7 1 1 s8 s9 1 1 s2 sa 1 1 sb
  sd 3 1 or sg g 1 uo sw w 1 ts v4 h 2 v5 wa r 2 wb xs 1 1 y7 xt 7 2 xu y8 1c 2 y9 10x 12 1 129
  3a8 12 1 8w0 3bb 1 1 8x3 3bh 1 1 8x9 3vk 28 1 xv4 3xs 6 1 3y0 5mx 1 1 5my 5n4 17 1 3bk 5od 3 1
  3ct 5xc 23 2 5xd 61q 1 1 67 61s 1c 2 61t 64o 8 1 64g 654 6 1 64w 65k 8 1 65c 660 8 1 65s 66g 6 1
  668 66x 4 2 66p 67c 8 1 674 688 8 1 680 68o 8 1 68g 694 8 1 68w 69k 2 1 69c 69m 2 1 67k 69o 1 1
  69f 6a0 4 1 67m 6a4 1 1 69v 6ag 2 1 6a8 6ai 2 1 67q 6aw 2 1 6ao 6ay 2 1 67u 6b0 1 1 6at 6bc 2 1
  67s 6be 2 1 67w 6bg 1 1 6b7 6jq 1 1 qx 6ju 1 1 2z 6jv 1 1 6d 6k2 1 1 6ku 6lc g 1 6ls 6mb 1 1 6mc
  792 q 1 79s 8ow 1c 1 8q8 8rk 1 1 8rl 8rm 1 1 h7 8rn 1 1 5tp 8ro 1 1 hp 8rr 3 2 8rs 8rx 1 1 gh
  8ry 1 1 hd 8rz 1 1 gg 8s0 1 1 gi 8s2 1 1 8s3 8s5 1 1 8s6 8se 2 1 fz 8sg 1e 2 8sh 8vf 2 2 8vg 8vm
  1 1 8vn wu8 n 2 wu9 ww0 e 2 ww1 x0i 7 2 x0j x0y v 2 x0z x2x 2 2 x2y x31 1 1 5tl x32 5 2 x33 x3f
  1 1 x3g x3h 1 1 h1 x3k 2 2 x3l x3q a 2 x3r x4a 1 1 h2 x4b 1 1 gs x4c 1 1 gx x4d 1 1 h8 x4e 1 1
  h6 x4g 1 1 im x4h 1 1 hz x4i 1 1 il x4j 1 1 xub x4k 8 2 x4l x50 1 1 x3o x51 1 1 hu x52 1 1 5u6
  x53 2 2 x54 x57 1 1 h0 x58 1 1 x59 x5c 1 1 x5d x5i 3 2 x5j x5o 1 1 bf x6d 1 1 x6e 1ee9 q 1 1ef5
  1fcw 14 1 1fe0 1fhs 10 1 1fiw 1fn4 j 2 1fo7 1fn5 5 2 1fo8 1fnh 7 2 1fok 1fnx 3 2 1fp0 1fo5 1 1
  1fp8 1h1c 1f 1 1h34 1h74 m 1 1h80 1jfk w 1 1jgg 20cg w 1 20dc 2olc y 1 2oma"

/-- The runs of the lowering. -/
def lowerRuns : List CaseRun := caseRunsOf (Text.words lowerTable.toList)

/-- The lower case of a character on its own. -/
def lowerChar (c : Char) : Text :=
  if c.toNat < 0x80 then [c.toLower]
  else if c = '\u0130' then ['i', '\u0307']
  else [Char.ofNat ((lowerRuns.findSome? fun r => r.map? c.toNat).getD c.toNat)]

/-- Whether the first character that is not skipped has case. -/
def startsCased (cased ignorable : CharSet) : Text → Bool
  | [] => false
  | c :: cs =>
    if ignorable.contains c then startsCased cased ignorable cs else cased.contains c

/-- The lower case of a text whose characters before it are `before`, the last one first. -/
def lowerFrom (cased ignorable : CharSet) (before : Text) : Text → Text
  | [] => []
  | c :: cs =>
    let lowered :=
      if c = '\u03A3' then
        if startsCased cased ignorable before && !startsCased cased ignorable cs then ['\u03C2']
        else ['\u03C3']
      else lowerChar c
    lowered ++ lowerFrom cased ignorable (c :: before) cs

/-- A text in lower case. -/
def lowercase (s : Text) : Text :=
  if s.all fun c => c.toNat < 0x80 then s.map Char.toLower
  else lowerFrom (property "cased") (property "ci") [] s

end LineShell.Unicode
