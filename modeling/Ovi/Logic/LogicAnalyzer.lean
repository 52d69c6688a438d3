import Ovi.Request.ValidateLogic

namespace Ovi

def oviEop : String := "OVI_EOP"
def oviEopp : String := "OVI_EOPP"

structure PluginNode where
  plugins : List String
  pos : Nat
  included : Bool
  cut : Bool
deriving DecidableEq, Repr

namespace PluginNode

def make (id : String) (cut : Bool) : PluginNode := ⟨[id],0,true,cut⟩

def reset (n : PluginNode) : PluginNode := { n with pos := 0, included := true }

def push (n : PluginNode) (plugin : String) : PluginNode :=
  { n with plugins := n.plugins ++ [plugin] }

def pop (n : PluginNode) : String × PluginNode :=
  if !n.included then ("",n)
  else
    match n.plugins[n.pos]? with
    | none => ("",n)
    | some plugin => (plugin,{ n with pos := n.pos + 1 })

def post (n : PluginNode) (include? : Bool) : Bool × PluginNode :=
  let n := if n.pos == 1 then { n with included := include? } else n
  if !n.cut then (true,n) else (include?,n)

end PluginNode

-- a `shared_ptr` to a node is its index here, so that pipelines can share the node
abbrev Nodes := List PluginNode
abbrev PluginNodePtr := Nat

structure PluginPipeline where
  pipeline : List PluginNodePtr
  pos : Nat
  essential : Bool
deriving DecidableEq, Repr

namespace PluginPipeline

def make : PluginPipeline := ⟨[],0,false⟩

def push (p : PluginPipeline) (plugin : PluginNodePtr) : PluginPipeline :=
  { p with pipeline := p.pipeline ++ [plugin] }

def resetNodes (p : PluginPipeline) (nodes : Nodes) : Nodes :=
  p.pipeline.foldl (fun nodes ptr => nodes.modify ptr PluginNode.reset) nodes

def rewind (p : PluginPipeline) : PluginPipeline := { p with pos := 0 }

def current (p : PluginPipeline) : Option PluginNodePtr := p.pipeline[p.pos]?

def setEssential (p : PluginPipeline) : PluginPipeline :=
  if p.pipeline.length != 1 then p else { p with essential := true }

def popNode (p : PluginPipeline) (nodes : Nodes) : Option (String × Nodes) := do
  let ptr ← p.pipeline[p.pos]?
  let node ← nodes[ptr]?
  some (node.pop.1,nodes.set ptr node.pop.2)

def pop (p : PluginPipeline) (nodes : Nodes) (include? : Bool) :
    Option (String × PluginPipeline × Nodes) :=
  if !include? then some ("",p,nodes)
  else do
    let (plugin,nodes) ← p.popNode nodes
    if plugin != "" then some (plugin,p,nodes)
    else
      let p := { p with pos := p.pos + 1 }
      if p.pos ≥ p.pipeline.length then some (oviEopp,p,nodes)
      else do
        let (plugin,nodes) ← p.popNode nodes
        some (plugin,p,nodes)

end PluginPipeline

structure LogicAnalyzer where
  expression : List String
  nodes : Nodes
  pipelines : List PluginPipeline
  pos : Nat
  included : Bool
deriving DecidableEq, Repr

namespace LogicAnalyzer

def reset (A : LogicAnalyzer) : LogicAnalyzer :=
  { A with
    pos := 0
    nodes := A.pipelines.foldl (fun nodes p => p.resetNodes nodes) A.nodes
    pipelines := A.pipelines.map PluginPipeline.rewind }

def enter (A : LogicAnalyzer) (pos : Nat) : Option LogicAnalyzer := do
  let p ← A.pipelines[pos]?
  some { A with
    pos := pos
    nodes := p.resetNodes A.nodes
    pipelines := A.pipelines.set pos p.rewind }

-- `none` is a dereference of a null node or an index out of range
def advance (A : LogicAnalyzer) (include? : Bool) : Option (String × LogicAnalyzer) := do
  let p ← A.pipelines[A.pos]?
  let ptr ← p.current
  let node ← A.nodes[ptr]?
  let (included,node) := node.post include?
  let (next,p,nodes) ← p.pop (A.nodes.set ptr node) included
  some (next,{ A with
    included := included
    nodes := nodes
    pipelines := A.pipelines.set A.pos p })

def nextEssential (A : LogicAnalyzer) : Nat :=
  A.pos + 1 + (A.pipelines.drop (A.pos + 1)).findIdx PluginPipeline.essential

-- the recursion always moves to a larger `pos`, so the depth is bounded by the pipelines
def nextPluginAux : Nat → LogicAnalyzer → Bool → Option (String × LogicAnalyzer)
  | 0, _, _ => none
  | depth + 1, A, include? => do
    let (next,A) ← A.advance include?
    if next == oviEopp || next == "" then
      let pos := if next == oviEopp then A.nextEssential else A.pos + 1
      if pos ≥ A.pipelines.length then some (oviEop,{ A with pos := pos })
      else do
        let A ← A.enter pos
        nextPluginAux depth A true
    else some (next,A)

def nextPlugin (A : LogicAnalyzer) (include? : Bool) : Option (String × LogicAnalyzer) :=
  nextPluginAux (A.pipelines.length + 1) A include?

end LogicAnalyzer

inductive LogicalOperator where
  | none
  | and
  | or
  | colon
deriving DecidableEq, Repr

def getLogicalOperator (str : String) : LogicalOperator :=
  if str == oviOpAnd then .and
  else if str == oviOpOr then .or
  else if str == oviOpColon then .colon
  else .none

structure Analysis where
  cut : Bool
  logicalOperator : LogicalOperator
  pluginNode : Option PluginNodePtr
  pipeline : Nat
  nodes : Nodes
  pipelines : List PluginPipeline
deriving DecidableEq, Repr

namespace Analysis

def start : Analysis where
  cut := true
  logicalOperator := .none
  pluginNode := none
  pipeline := 0
  nodes := []
  pipelines := [PluginPipeline.make]

def newNode (b : Analysis) (str : String) : Analysis :=
  { b with pluginNode := some b.nodes.length, nodes := b.nodes ++ [PluginNode.make str b.cut] }

def plugin (b : Analysis) (str : String) : Option Analysis :=
  match b.logicalOperator with
  | .and =>
    some { b.newNode str with pipelines := b.pipelines.map (·.push b.nodes.length) }
  | .or =>
    some { b.newNode str with
      pipelines := b.pipelines ++ [PluginPipeline.make.push b.nodes.length]
      pipeline := b.pipelines.length }
  | .colon => do
    let ptr ← b.pluginNode
    some { b with
      nodes := b.nodes.modify ptr (·.push str)
      pipelines :=
        if b.pipelines.length > 1 then b.pipelines.modify b.pipeline PluginPipeline.setEssential
        else b.pipelines }
  | .none =>
    some { b.newNode str with pipelines := b.pipelines.modify b.pipeline (·.push b.nodes.length) }

def step (b : Analysis) (str : String) : Option Analysis :=
  if str == oviOpUncut then some { b with cut := false }
  else if isLogicalOperator str then some { b with logicalOperator := getLogicalOperator str }
  else do
    let b ← b.plugin str
    some { b with logicalOperator := .none, cut := true }

end Analysis

def runAnalysis (expression : List String) : Option Analysis :=
  expression.foldlM Analysis.step Analysis.start

def LogicAnalyzer.make (expression : List String) : Option LogicAnalyzer := do
  let b ← runAnalysis expression
  some (LogicAnalyzer.reset ⟨expression,b.nodes,b.pipelines,0,false⟩)

end Ovi
