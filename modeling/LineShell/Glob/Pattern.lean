import LineShell.Text.Basic

/-!
# Wildcard patterns

A pattern is a list of tokens: single characters, `?`, bracketed sets, `*`, and `**`, which must
be a whole component of a path.

**Reading.**  `Pattern.parse` reads a pattern or says what is wrong with it and where.

**Matching.**  `Pattern.matches` matches a whole text.  A run of anything is tried from its
shortest form; running out of text while characters are still asked for ends the search at once
(`Match.never`), since a longer run leaves even less.
-/

namespace LineShell.Glob

/-- One item of a bracketed set. -/
inductive Item where
  | single (c : Char)
  | range (low high : Char)
deriving DecidableEq, Repr

/-- One token of a pattern. -/
inductive Token where
  | char (c : Char)
  /-- `?` -/
  | any
  /-- `[...]` -/
  | within (items : List Item)
  /-- `[!...]` -/
  | except (items : List Item)
  /-- `*` -/
  | run
  /-- `**` -/
  | deepRun
deriving DecidableEq, Repr

/-- What can be wrong with a pattern. -/
inductive Fault where
  /-- More than two stars in a row. -/
  | wildcards
  /-- `**` beside something other than a slash. -/
  | recursive
  /-- A bracket that does not open a set. -/
  | badRange
deriving DecidableEq, Repr

/-- What is wrong with a pattern, and at which character. -/
structure Error where
  position : Nat
  fault : Fault
deriving DecidableEq, Repr

/-- The wording of a fault. -/
def Fault.message : Fault → Text
  | wildcards => "wildcards are either regular `*` or recursive `**`".toList
  | recursive => "recursive wildcards must form a single path component".toList
  | badRange => "invalid range pattern".toList

/-- The wording of an error. -/
def Error.message (e : Error) : Text :=
  "Pattern syntax error near position ".toList ++ Text.ofNat e.position ++ ": ".toList ++
    e.fault.message

/-- A pattern. -/
structure Pattern where
  tokens : List Token
deriving DecidableEq, Repr

/-! ## Reading -/

/-- The items of a bracketed set. -/
def items : Text → List Item
  | low :: '-' :: high :: rest => .range low high :: items rest
  | c :: rest => .single c :: items rest
  | [] => []

/-- Reads a set after its opening bracket: whether it is negated, what it holds, and the text
    after its closing bracket.  The first character is always taken as an item. -/
def bracket : Text → Option (Bool × Text × Text)
  | '!' :: c :: cs => (Text.splitOnce [']'] cs).map fun (inside, rest) => (true, c :: inside, rest)
  | '!' :: [] => none
  | c :: cs => (Text.splitOnce [']'] cs).map fun (inside, rest) => (false, c :: inside, rest)
  | [] => none

/-- Adds a `**`, unless one was just added after another token. -/
def pushDeepRun (done : List Token) : List Token :=
  if done.length > 1 ∧ done.getLast? = some .deepRun then done else done ++ [.deepRun]

theorem length_splitOnce {marker s before after : Text}
    (h : Text.splitOnce marker s = some (before, after)) : after.length ≤ s.length := by
  induction s generalizing before with
  | nil =>
    unfold Text.splitOnce at h
    split at h <;> simp_all
  | cons c cs ih =>
    unfold Text.splitOnce at h
    split at h
    · have := (Prod.mk.inj (Option.some.inj h)).2
      subst this
      simp only [List.length_drop]
      omega
    · cases hs : Text.splitOnce marker cs with
      | none => simp [hs] at h
      | some pair =>
        obtain ⟨b, a⟩ := pair
        simp only [hs, Option.map_some, Option.some.injEq, Prod.mk.injEq] at h
        obtain ⟨_, rfl⟩ := h
        have := ih hs
        simp only [List.length_cons]
        omega

theorem length_bracket {s inside rest : Text} {negated : Bool}
    (h : bracket s = some (negated, inside, rest)) : rest.length ≤ s.length := by
  unfold bracket at h
  split at h
  · next c cs =>
    cases hs : Text.splitOnce [']'] cs with
    | none => simp [hs] at h
    | some pair =>
      obtain ⟨b, a⟩ := pair
      have := length_splitOnce hs
      simp only [hs, Option.map_some, Option.some.injEq, Prod.mk.injEq] at h
      obtain ⟨_, _, rfl⟩ := h
      simp only [List.length_cons]
      omega
  · simp at h
  · next c cs _ _ =>
    cases hs : Text.splitOnce [']'] cs with
    | none => simp [hs] at h
    | some pair =>
      obtain ⟨b, a⟩ := pair
      have := length_splitOnce hs
      simp only [hs, Option.map_some, Option.some.injEq, Prod.mk.injEq] at h
      obtain ⟨_, _, rfl⟩ := h
      simp only [List.length_cons]
      omega
  · simp at h

/-- Reads the tokens of `s`, the end of a pattern of `total` characters that is preceded by
    `before` and whose tokens so far are `done`. -/
def tokensFrom (total : Nat) (before : Option Char) (done : List Token) (s : Text) :
    Except Error (List Token) :=
  match s with
  | [] => .ok done
  | c :: cs =>
    let position := total - (cs.length + 1)
    if c = '?' then tokensFrom total (some c) (done ++ [.any]) cs
    else if c = '*' then
      match cs with
      | '*' :: '*' :: _ => .error ⟨position + 2, .wildcards⟩
      | '*' :: rest =>
        if before = none ∨ before = some '/' then
          match rest with
          | [] => .ok (pushDeepRun done)
          | d :: rest' =>
            if d = '/' then tokensFrom total (some d) (pushDeepRun done) rest'
            else .error ⟨position + 2, .recursive⟩
        else .error ⟨position - 1, .recursive⟩
      | rest => tokensFrom total (some c) (done ++ [.run]) rest
    else if c = '[' then
      match h : bracket cs with
      | none => .error ⟨position, .badRange⟩
      | some (negated, inside, rest) =>
        have : rest.length ≤ cs.length := length_bracket h
        tokensFrom total (some ']')
          (done ++ [if negated then .except (items inside) else .within (items inside)]) rest
    else tokensFrom total (some c) (done ++ [.char c]) cs
termination_by s.length
decreasing_by all_goals simp_all only [List.length_cons]; omega

namespace Pattern

/-- Reads a pattern. -/
def parse (s : Text) : Except Error Pattern :=
  (tokensFrom s.length none [] s).map Pattern.mk

/-- The text that is the only match of a pattern of plain characters. -/
def literal? (p : Pattern) : Option Text :=
  p.tokens.mapM fun
    | .char c => some c
    | _ => none

/-- Whether a pattern reaches through directories. -/
def isDeep (p : Pattern) : Bool := p.tokens.contains .deepRun

end Pattern

/-- A pattern that matches a text and nothing else. -/
def escape (s : Text) : Text :=
  s.flatMap fun c =>
    if c = '?' ∨ c = '*' ∨ c = '[' ∨ c = ']' then ['[', c, ']'] else [c]

/-! ## Matching -/

/-- The outcome of a match. -/
inductive Match where
  | yes
  /-- Not so; a longer run before this point may still do. -/
  | no
  /-- Not so, nor with a longer run. -/
  | never
deriving DecidableEq, Repr

/-- Whether an item takes a character. -/
def Item.takes (c : Char) : Item → Bool
  | .single d => c = d
  | .range low high => low.toNat ≤ c.toNat && c.toNat ≤ high.toNat

/-- Whether a token other than a run takes a character. -/
def Token.takes (c : Char) : Token → Bool
  | .char d => c = d
  | .any => true
  | .within items => items.any (·.takes c)
  | .except items => !items.any (·.takes c)
  | .run => false
  | .deepRun => false

/-- Tries the rest of a pattern, `after`, behind ever longer runs.  A `deep` run ends only after
    a slash, or at the end; `ready` says that it may end here. -/
def matchRun (deep : Bool) (after : Text → Match) : (ready : Bool) → Text → Match
  | _, [] => after []
  | ready, c :: cs =>
    match if ready then after (c :: cs) else .no with
    | .no => matchRun deep after (!deep || c = '/') cs
    | outcome => outcome

/-- Matches tokens against a whole text. -/
def matchTokens : List Token → Text → Match
  | [], s => if s.isEmpty then .yes else .no
  | .run :: ts, s => matchRun false (fun rest => matchTokens ts rest) true s
  | .deepRun :: ts, s => matchRun true (fun rest => matchTokens ts rest) true s
  | t :: ts, s =>
    match s with
    | [] => .never
    | c :: cs => if t.takes c then matchTokens ts cs else .no

/-- Whether a pattern matches a text. -/
def Pattern.matches (p : Pattern) (s : Text) : Bool := matchTokens p.tokens s = .yes

end LineShell.Glob
