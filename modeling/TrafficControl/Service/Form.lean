import TrafficControl.Document.Reader
import TrafficControl.Service.Basic

namespace TrafficControl.ServiceKey

open Reader

def form : Form ServiceKey where
  name := "ServiceKey"
  fields :=
    [field "namespace" text fun ns k => { k with ns },
     field "service" text fun service k => { k with service }]
  start := default
  required := true

def read : Reader ServiceKey := record form

end TrafficControl.ServiceKey
