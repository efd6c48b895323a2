import EventWiki.Proofs.StatementWording

namespace EventWiki.Rulebook

variable {book : Rulebook} {key text : String} {operator : Option Operator} {values : List String}
  {template : Template}

end EventWiki.Rulebook
