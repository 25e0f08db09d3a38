import Callwise.Module.Stubs

/-!
# Bundled modules

Stubs of the built-in functions and of the `returns` library, as far as the checker knows them, and
the index they give.
-/

namespace Callwise.Bundled

/-- The built-in functions. -/
def builtinsStub : String :=
  "from typing import Any

def len(obj: object) -> int: ...
def print(*values: object, sep: str = ..., end: str = ...) -> None: ...
def repr(obj: object) -> str: ...
def isinstance(obj: object, class_or_tuple: Any) -> bool: ...
def int(x: Any = ...) -> int: ...
def str(obj: object = ...) -> str: ...
def float(x: Any = ...) -> float: ...
def bool(o: object = ...) -> bool: ...
"

/-- Results that are a value or an error. -/
def resultStub : String :=
  "from typing import Any, Callable, TypeVar

_ValueType = TypeVar('_ValueType')
_ErrorType = TypeVar('_ErrorType')

def Success(inner_value: _ValueType) -> Result[_ValueType, Any]: ...
def Failure(inner_value: _ErrorType) -> Result[Any, _ErrorType]: ...

def safe(
    function: Callable[..., _ValueType],
) -> Callable[..., Result[_ValueType, Exception]]: ...
"

/-- Values that come from input and output. -/
def ioStub : String :=
  "from typing import Any, Callable, TypeVar

_ValueType = TypeVar('_ValueType')
_ErrorType = TypeVar('_ErrorType')

def IO(inner_value: _ValueType) -> IO[_ValueType]: ...
def IOSuccess(inner_value: _ValueType) -> IOResult[_ValueType, Any]: ...
def IOFailure(inner_value: _ErrorType) -> IOResult[Any, _ErrorType]: ...

def impure(function: Callable[..., _ValueType]) -> Callable[..., IO[_ValueType]]: ...

def impure_safe(
    function: Callable[..., _ValueType],
) -> Callable[..., IOResult[_ValueType, Exception]]: ...
"

/-- Values that may be missing. -/
def maybeStub : String :=
  "from typing import Any, Callable, Optional, TypeVar

_ValueType = TypeVar('_ValueType')

def Some(inner_value: _ValueType) -> Maybe[_ValueType]: ...

Nothing: Maybe[Never]

def maybe(
    function: Callable[..., Optional[_ValueType]],
) -> Callable[..., Maybe[_ValueType]]: ...
"

/-- Values that are computed asynchronously. -/
def futureStub : String :=
  "from typing import Any, Callable, Coroutine, TypeVar

_ValueType = TypeVar('_ValueType')

def future(
    function: Callable[..., Coroutine[Any, Any, _ValueType]],
) -> Callable[..., Future[_ValueType]]: ...

def asyncify(
    function: Callable[..., _ValueType],
) -> Callable[..., Coroutine[Any, Any, _ValueType]]: ...

def future_safe(
    function: Callable[..., Coroutine[Any, Any, _ValueType]],
) -> Callable[..., FutureResult[_ValueType, Exception]]: ...
"

/-- Plain helper functions. -/
def functionsStub : String :=
  "from typing import Callable, TypeVar

_FirstType = TypeVar('_FirstType')

def identity(instance: _FirstType) -> _FirstType: ...

def not_(function: Callable[..., bool]) -> Callable[..., bool]: ...
"

/-- Partial application and currying. -/
def curryStub : String :=
  "from typing import Any, Callable, TypeVar

_ReturnType = TypeVar('_ReturnType')

def partial(
    func: Callable[..., _ReturnType], *args: Any, **kwargs: Any
) -> Callable[..., _ReturnType]: ...

def curry(function: Callable[..., _ReturnType]) -> Callable[..., _ReturnType]: ...
"

/-- The function behind `flow`. -/
def flowStub : String :=
  "from typing import Any, TypeVar

_InstanceType = TypeVar('_InstanceType')

def _flow(instance: _InstanceType, *functions: Any) -> Any: ...
"

/-- Passes `flow` on. -/
def pipelineStub : String :=
  "from returns._generated.pipeline.flow import _flow as flow
"

/-- The function behind `map_`. -/
def mapStub : String :=
  "from typing import Callable, TypeVar

from returns.primitives.hkt import KindN

_FirstType = TypeVar('_FirstType')
_SecondType = TypeVar('_SecondType')
_ThirdType = TypeVar('_ThirdType')
_UpdatedType = TypeVar('_UpdatedType')
_Kind = TypeVar('_Kind')

def _map(
    function: Callable[[_FirstType], _UpdatedType],
) -> Callable[
    [KindN[_Kind, _FirstType, _SecondType, _ThirdType]],
    KindN[_Kind, _UpdatedType, _SecondType, _ThirdType],
]: ...
"

/-- Passes `map_` on. -/
def pointfreeStub : String :=
  "from returns._generated.pointfree.map import _map as map_
"

/-- The bundled modules with their stubs, each behind those it imports from. -/
def stubs : List (String × String) :=
  [("builtins", builtinsStub),
   ("returns.result", resultStub),
   ("returns.io", ioStub),
   ("returns.maybe", maybeStub),
   ("returns.future", futureStub),
   ("returns.functions", functionsStub),
   ("returns.curry", curryStub),
   ("returns._generated.pipeline.flow", flowStub),
   ("returns.pipeline", pipelineStub),
   ("returns._generated.pointfree.map", mapStub),
   ("returns.pointfree", pointfreeStub)]

/-- The index of the bundled modules. -/
def index : ModuleIndex := .ofStubs stubs

end Callwise.Bundled
