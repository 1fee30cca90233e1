import TrafficControl.Yaml.Resolution
import TrafficControl.Yaml.Token.Reader

namespace TrafficControl.Yaml

def parse? (text : String) : Option Document := do
  let ts ← tokens? text.toList
  let node ← Node.ofTokens? ts
  document? node

end TrafficControl.Yaml
