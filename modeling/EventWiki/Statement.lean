import EventWiki.Token

namespace EventWiki

/-- A token with the statements of its block, as they are nested in a script. -/
inductive Statement where
  | mk (token : Token) (children : List Statement)

namespace Statement

def token : Statement → Token
  | mk token _ => token

def children : Statement → List Statement
  | mk _ children => children

def kind (statement : Statement) : String :=
  statement.token.kind

def isLeaf (statement : Statement) : Bool :=
  statement.children.isEmpty

@[simp] theorem token_mk (token : Token) (children : List Statement) :
    (mk token children).token = token := rfl

@[simp] theorem children_mk (token : Token) (children : List Statement) :
    (mk token children).children = children := rfl

@[simp] theorem kind_mk (token : Token) (children : List Statement) :
    (mk token children).kind = token.kind := rfl

end Statement

end EventWiki
