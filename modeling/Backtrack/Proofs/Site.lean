import Backtrack.Proofs.Parts

/-!
# The sites of a description

A run gets its errors at the sites of a description: at its leaves, where it converts a value and
where it checks that nothing is left. Here a description means a parser for whatever answers at its
sites (`Grammar.parserWith`), and with the answers the sites really give that is the parser the
description describes (`Grammar.parserWith_site`). A name that no rule has is a site too, so that
any member of a description may be left open.
-/

namespace Backtrack

/-- What a combinator does to an error that passes through it. -/
inductive Layer where
  /-- The error becomes the cause of a new one of another kind. -/
  | relabel (kind : ErrorKind)
  /-- The error is put into a wrapper. -/
  | wrap
  deriving DecidableEq, Repr

namespace Layer

def apply : Layer → ParseError → ParseError
  | relabel kind => .relabel kind
  | wrap => .wrap

/-- The error behind some layers, the innermost first. -/
def applyAll (layers : List Layer) (e : ParseError) : ParseError :=
  layers.foldl (fun e l => l.apply e) e

end Layer

/-- What may answer with an error. -/
inductive Task where
  | leaf (l : Leaf)
  /-- The conversion of a value read from `start` on. -/
  | conversion (f : Conversion) (start : Nat) (v : Value)
  /-- The check that nothing is left behind a value. -/
  | leftover (v : Value)
  /-- A name that no rule has. -/
  | unknown (name : String)

/-- What a task really answers, from where the run has got to. -/
def Task.parser (rounds : Nat) : Task → Parser Value
  | leaf l => l.parser rounds
  | conversion f start v =>
    match f.apply v with
    | .ok w => return w
    | .error seed => do
      Parser.note (.conversionError start)
      Parser.raise (seed.toError start)
  | leftover v => do
    if ← Parser.isAtEnd then return v
    else Parser.raise ⟨.expectedEof, ← Parser.position, []⟩
  | unknown name => fun _ => .error (.unknownName name)

/-- A way from a description to one of its parts: at each step down, the number of the member. The
last step comes first. -/
abbrev Path : Type := List Nat

/-- A task at its place in a description. -/
structure Site where
  path : Path
  task : Task

abbrev Oracle : Type := Site → Parser Value

def Site.parser (rounds : Nat) : Oracle := fun s => s.task.parser rounds

/-- To convert as a task is what a parser with a conversion does. -/
theorem Parser.attempt_conversion (f : Conversion) (p : Parser Value) (rounds : Nat) :
    Parser.attempt (do
      let start ← Parser.position
      let v ← p
      (Task.conversion f start v).parser rounds) = p.tryMap f.apply := by
  refine congrArg Parser.attempt (congrArg (Parser.position >>= ·) (funext fun start => ?_))
  refine congrArg (p >>= ·) (funext fun v => ?_)
  show (Task.conversion f start v).parser rounds = _
  rw [Task.parser]
  rcases f.apply v with seed | w <;> rfl

namespace Expr

def layers : Expr → List Layer
  | relabelError kind _ => [.relabel kind]
  | wrapError _ => [.wrap]
  | _ => []

mutual

/-- The parser of the description at the end of a path, with the answers of an oracle at its
sites. -/
def parserWith (o : Oracle) (call : Path → String → Parser Value) (rounds : Nat) :
    (path : Path) → (e : Expr) → Parser Value
  | path, leaf l => o ⟨path, .leaf l⟩
  | path, map f e => (e.parserWith o call rounds (0 :: path)).map f.apply
  | path, tryMap f e => .attempt do
    let start ← Parser.position
    let v ← e.parserWith o call rounds (0 :: path)
    o ⟨path, .conversion f start v⟩
  | path, verify test e => (e.parserWith o call rounds (0 :: path)).verify test.holds
  | path, withValue t e => (e.parserWith o call rounds (0 :: path)).withValue (.str t)
  | path, relabelError kind e =>
    (e.parserWith o call rounds (0 :: path)).mapError (Layer.relabel kind).apply
  | path, wrapError e => (e.parserWith o call rounds (0 :: path)).mapError Layer.wrap.apply
  | path, optional e => (e.parserWith o call rounds (0 :: path)).optional.map .presence
  | path, recognize e => (e.parserWith o call rounds (0 :: path)).recognize.map .str
  | path, spanned e =>
    (e.parserWith o call rounds (0 :: path)).spanned.map fun (v, t) => .tuple [v, .str t]
  | path, peek e => (e.parserWith o call rounds (0 :: path)).peek
  | path, not e => (e.parserWith o call rounds (0 :: path)).not.withValue .unit
  | path, complete e => .attempt do
    let v ← e.parserWith o call rounds (0 :: path)
    o ⟨path, .leftover v⟩
  | path, shared e => e.parserWith o call rounds (0 :: path)
  | path, erased e => e.parserWith o call rounds (0 :: path)
  | path, pair e f =>
    (Parser.pair (e.parserWith o call rounds (0 :: path))
      (f.parserWith o call rounds (1 :: path))).map fun (v, w) => .tuple [v, w]
  | path, or e f =>
    (Parser.or (e.parserWith o call rounds (0 :: path))
      (f.parserWith o call rounds (1 :: path))).map .branch
  | path, seq es => (Parser.seq (parsersWith o call rounds path 0 es)).map .tuple
  | path, chain e es =>
    (Parser.chain (e.parserWith o call rounds (0 :: path))
      (parsersWith o call rounds path 1 es)).map .tuple
  | path, choice e es =>
    Parser.choice (e.parserWith o call rounds (0 :: path)) (parsersWith o call rounds path 1 es)
  | path, any container es => Parser.any (container.family (parsersWith o call rounds path 0 es))
  | path, all container es =>
    (Parser.all (container.family (parsersWith o call rounds path 0 es))).map .list
  | path, nth container index es =>
    let family := container.family (parsersWith o call rounds path 0 es)
    (family.nth index).map fun v => .tuple [.int family.count, v]
  | path, repeated quantity e =>
    (quantity.parser rounds (e.parserWith o call rounds (0 :: path))).map .list
  | path, scan kind e f =>
    (Parser.scan kind rounds (e.parserWith o call rounds (0 :: path))
      (f.parserWith o call rounds (1 :: path))).map .list
  | path, scanText kind f =>
    (Parser.scanText kind rounds (f.parserWith o call rounds (0 :: path))).map .str
  | path, rule name => fun c => call path name c

def parsersWith (o : Oracle) (call : Path → String → Parser Value) (rounds : Nat) (path : Path) :
    (i : Nat) → List Expr → List (Parser Value)
  | _, [] => []
  | i, e :: es =>
    e.parserWith o call rounds (i :: path) :: parsersWith o call rounds path (i + 1) es

end

theorem parsersWith_eq_map (o : Oracle) (call : Path → String → Parser Value) (rounds : Nat)
    (path : Path) : ∀ (i : Nat) (es : List Expr), parsersWith o call rounds path i es
      = (es.zipIdx i).map fun d => d.1.parserWith o call rounds (d.2 :: path)
  | _, [] => rfl
  | i, e :: es => by
    rw [parsersWith, parsersWith_eq_map o call rounds path (i + 1) es, List.zipIdx_cons,
      List.map_cons]

/-- With the answers its sites really give, a description has the parser it describes. -/
theorem parserWith_site (call : String → Parser Value) (rounds : Nat) (e : Expr) : ∀ path,
    e.parserWith (Site.parser rounds) (fun _ => call) rounds path = e.parser call rounds := by
  induction e using members_induction with
  | step e ih =>
    intro path
    have hlist : ∀ {es : List Expr}, (∀ d ∈ es, ∀ path,
        d.parserWith (Site.parser rounds) (fun _ => call) rounds path = d.parser call rounds) →
        ∀ i, parsersWith (Site.parser rounds) (fun _ => call) rounds path i es
          = parsers call rounds es := by
      intro es
      induction es with
      | nil => exact fun _ _ => rfl
      | cons e es ihes =>
        intro h i
        rw [parsersWith, parsers, h e List.mem_cons_self,
          ihes (fun d hd => h d (List.mem_cons_of_mem e hd))]
    cases e with
    | leaf | rule => rfl
    | seq es | any container es | all container es | nth container index es =>
      have hes : parsersWith (Site.parser rounds) (fun _ => call) rounds path 0 es
          = parsers call rounds es := hlist ih 0
      simp only [parserWith, parser, hes]
    | chain e es | choice e es =>
      rw [parserWith, parser, ih e (by simp [members]),
        hlist fun d hd => ih d (by simp [members, hd])]
    | pair e f | or e f | scan kind e f =>
      rw [parserWith, parser, ih e (by simp [members]), ih f (by simp [members])]
    | tryMap f e =>
      rw [parserWith, parser, ih e (by simp [members])]
      exact Parser.attempt_conversion f _ rounds
    | complete e | wrapError e | relabelError _ e =>
      rw [parserWith, parser, ih e (by simp [members])]
      rfl
    | optional e | recognize e | spanned e | peek e | not e | shared e | erased e | map _ e
    | verify _ e | withValue _ e | repeated _ e | scanText _ e =>
      rw [parserWith, parser, ih e (by simp [members])]

end Expr

namespace Grammar

/-- The parser of a rule called at the end of a path, down to a depth of calls, with the answers of
an oracle. -/
def callWith (g : Grammar) (o : Oracle) (rounds : Nat) :
    (depth : Nat) → Path → String → Parser Value
  | 0, _, _, _ => .error .depthSpent
  | depth + 1, path, name, c =>
    match g.lookup name with
    | some e => e.parserWith o (callWith g o rounds depth) rounds (0 :: path) c
    | none => o ⟨path, .unknown name⟩ c

/-- The parser of a description whose rules are in the grammar, with the answers of an oracle at its
sites. -/
def parserWith (g : Grammar) (o : Oracle) (budget : Nat) (e : Expr) : Parser Value :=
  e.parserWith o (g.callWith o budget budget) budget []

theorem callWith_site (g : Grammar) (rounds : Nat) : ∀ depth,
    g.callWith (Site.parser rounds) rounds depth = fun _ => g.call rounds depth
  | 0 => rfl
  | depth + 1 => by
    funext path name c
    rw [callWith, call, callWith_site g rounds depth]
    rcases g.lookup name with _ | m
    · rfl
    · dsimp only
      rw [Expr.parserWith_site]

theorem parserWith_site (g : Grammar) (budget : Nat) (e : Expr) :
    g.parserWith (Site.parser budget) budget e = g.parser budget e := by
  rw [parserWith, callWith_site, Expr.parserWith_site, parser]

/-- The site is in the description at the end of the path, under exactly these layers, the
innermost first. -/
inductive Sits (g : Grammar) : Path → Expr → Site → List Layer → Prop where
  | leaf {path : Path} {l : Leaf} : Sits g path (.leaf l) ⟨path, .leaf l⟩ []
  | conversion {path : Path} {f : Conversion} {e : Expr} {start : Nat} {v : Value} :
    Sits g path (.tryMap f e) ⟨path, .conversion f start v⟩ []
  | leftover {path : Path} {e : Expr} {v : Value} :
    Sits g path (.complete e) ⟨path, .leftover v⟩ []
  | unknown {path : Path} {name : String} : g.lookup name = none →
    Sits g path (.rule name) ⟨path, .unknown name⟩ []
  | member {path : Path} {i : Nat} {e m : Expr} {s : Site} {layers : List Layer} :
    e.members[i]? = some m → Sits g (i :: path) m s layers → Sits g path e s (layers ++ e.layers)
  | called {path : Path} {name : String} {m : Expr} {s : Site} {layers : List Layer} :
    g.lookup name = some m → Sits g (0 :: path) m s layers → Sits g path (.rule name) s layers

end Grammar

end Backtrack
