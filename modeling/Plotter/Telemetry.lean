set_option autoImplicit false

namespace Plotter.Telemetry

def defaultDirective : String := "grapher_rs=info"

def install (_directive : String) : Bool := false

end Plotter.Telemetry
