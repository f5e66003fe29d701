import Terminal.Decimal.Number
import Terminal.Table

namespace Terminal

abbrev Environment := Table String

structure Config where
  user : String := "guest"
  host : String := "stellar"
  shell : String := "/bin/websh"
  home : String := "/home/guest"
  theme : String := "classic"
  pingCount : Int := 4
  pingTimeout : Option Number := some (.binary (.ofDecimal false 5 0))
  pingInterval : Option Number := some (.binary (.ofDecimal false 4 (-1)))

def Config.environment (c : Config) : Environment :=
  .ofList [("USER", c.user), ("HOST", c.host), ("SHELL", c.shell), ("PWD", c.home), ("THEME", c.theme)]

end Terminal
