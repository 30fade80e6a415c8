import Millwork.Machine.Profile
import Millwork.Tool.Basic

namespace Millwork.Profile

def plungeRateFor (profile : Profile) (tool : Tool) : PositiveNumber :=
  if profile.toolRates.isOn && tool.kind = .millingBit then
    tool.plungeRate.getD profile.plungeRate
  else profile.plungeRate

def feedRateFor (profile : Profile) (tool : Tool) : PositiveNumber :=
  if profile.toolRates.isOn then tool.feedRate else profile.feedRate

end Millwork.Profile
